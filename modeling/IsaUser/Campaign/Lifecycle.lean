import IsaUser.Campaign.Statements

/-!
# The Lifecycle of a Campaign

The methods of the lifecycle check the status that they have read, and write without another look.
A campaign that is deleted is read as any other, a campaign that is scheduled or active passes the
check of an edit, and the latest execution is written to whatever its status.
-/

open IsaUser.Prog

namespace IsaUser.Campaigns

/-! ### The laws -/

abbrev CampaignPast := Past (CampaignApi.fallible StorageError) Moment

abbrev CampaignPool (ι : Type*) :=
  Pool (CampaignApi.fallible StorageError) CampaignError Unit ι Moment

def Edge (current target : CampaignStatus) : Prop := target ∈ validTransitions current
  deriving Decidable

def CampaignStatus.Editable (status : CampaignStatus) : Prop := status = .draft ∨ status = .paused
  deriving Decidable

def ExecutionStatus.Ended (status : ExecutionStatus) : Prop :=
  status = .completed ∨ status = .cancelled ∨ status = .failed
  deriving Decidable

def Store.Editable (s : Store) (campaignId : ℕ) : Prop :=
  ∀ row ∈ s.campaigns.get? campaignId, row.deletedAt = none ∧ row.status.Editable
  deriving Decidable

/-- A statement that is executed changes a status as the table has it, schedules, activates,
pauses, resumes and edits what is not deleted, edits a draft or what is paused, and leaves the
status of an execution that has ended. -/
def Lawful : Moment × Call → Prop
  | ((s, link), .updateCampaign id updates) => link ≠ .down →
      ∀ row ∈ s.campaigns.get? id,
        (∀ status ∈ updates.status, status = row.status ∨ Edge row.status status) ∧
          (updates.status ≠ some .cancelled → row.deletedAt = none) ∧
            (updates.status = none → row.status.Editable)
  | ((s, link), .deleteAudiences id) => link ≠ .down → s.Editable id
  | ((s, link), .insertAudience row) => link ≠ .down → s.Editable row.campaignId
  | ((s, link), .updateExecution id status _) => link ≠ .down →
      ∀ e ∈ s.executions.get? id, e.status.Ended → status = e.status
  | _ => True

instance : DecidablePred Lawful
  | ((s, _), .updateCampaign id updates) =>
    inferInstanceAs (Decidable (_ → ∀ row ∈ s.campaigns.get? id,
      (∀ status ∈ updates.status, _) ∧ _ ∧ _))
  | ((s, _), .deleteAudiences id) => inferInstanceAs (Decidable (_ → s.Editable id))
  | ((s, _), .insertAudience row) => inferInstanceAs (Decidable (_ → s.Editable row.campaignId))
  | ((s, _), .updateExecution id _ _) =>
    inferInstanceAs (Decidable (_ → ∀ e ∈ s.executions.get? id, _ → _))
  | (_, .insertCampaign _) | (_, .selectCampaign _ _) | (_, .deleteCampaign _ _)
  | (_, .selectAudiences _) | (_, .insertVariant _ _ _) | (_, .updateVariant _ _ _)
  | (_, .selectVariants _) | (_, .insertChannel _) | (_, .selectChannels _ _)
  | (_, .deleteTriggers _) | (_, .insertTrigger _) | (_, .selectTriggers _)
  | (_, .countExecutions _) | (_, .selectExecutions _) => .isTrue trivial

/-- What has come to pass between two moments: campaigns have changed their statuses along the
table and what was deleted still is, and executions that had ended are as they were. -/
structure Store.Follows (s s' : Store) : Prop where
  campaigns : ∀ id, ∀ row ∈ s.campaigns.get? id, ∃ row' ∈ s'.campaigns.get? id,
    Relation.ReflTransGen Edge row.status row'.status ∧
      (row.deletedAt.isSome → row'.deletedAt.isSome)
  executions : ∀ id, ∀ e ∈ s.executions.get? id, e.status.Ended →
    ∃ e' ∈ s'.executions.get? id, e'.status = e.status

/-! ### The condition -/

def found : CampaignPast → Option (Row CampaignRow)
  | [] => none
  | ((s, _), .insertCampaign row) :: _ => some ⟨s.campaigns.size, row⟩
  | ((s, _), .selectCampaign id org) :: _ => (s.selectCampaign id org).map (⟨id, ·⟩)
  | _ :: past => found past

def listed : CampaignPast → Option (Row ExecutionRow)
  | [] => none
  | ((s, _), .selectExecutions id) :: _ => s.latestExecution id
  | _ :: past => listed past

/-- The campaign has been found neither deleted nor scheduled nor active, and still is what it has
been found. -/
def Undisturbed (past : CampaignPast) (s : Store) (campaignId : ℕ) : Prop :=
  ∀ campaign ∈ found past, campaign.val.deletedAt = none ∧ campaign.val.status ≠ .scheduled ∧
    campaign.val.status ≠ .active ∧ ∀ row ∈ s.campaigns.get? campaignId,
      row.status = campaign.val.status ∧ row.deletedAt = none

/-- A call acts on what it has found: the status is still the one it has read, or the one it
writes already; only a cancellation is of a campaign that is deleted; what it edits it has found
neither scheduled nor active; and the execution that it writes to has not ended, unless just so. -/
def Orderly (past : CampaignPast) (m : Moment) : Call → Prop
  | .updateCampaign id updates => m.2 ≠ .down → ∀ campaign ∈ found past,
      (updates.status = none →
        campaign.val.status ≠ .scheduled ∧ campaign.val.status ≠ .active) ∧
      (updates.status ≠ some .cancelled → campaign.val.deletedAt = none) ∧
      ∀ row ∈ m.1.campaigns.get? id,
        (row.status = campaign.val.status ∨ updates.status = some row.status) ∧
          (updates.status ≠ some .cancelled → row.deletedAt = none)
  | .deleteAudiences id => m.2 ≠ .down → Undisturbed past m.1 id
  | .insertAudience row => m.2 ≠ .down → Undisturbed past m.1 row.campaignId
  | .updateExecution id status _ => m.2 ≠ .down → ∀ e ∈ listed past,
      (e.val.status.Ended → e.val.status = status) ∧
        ∀ now ∈ m.1.executions.get? id, now.status = e.val.status ∨ now.status = status
  | _ => True

instance (past : CampaignPast) (s : Store) (campaignId : ℕ) :
    Decidable (Undisturbed past s campaignId) :=
  inferInstanceAs (Decidable (∀ campaign ∈ found past, _ ∧ _ ∧ _ ∧
    ∀ row ∈ s.campaigns.get? campaignId, _))

instance (past : CampaignPast) (m : Moment) : DecidablePred (Orderly past m)
  | .updateCampaign id _ =>
    inferInstanceAs (Decidable (_ → ∀ campaign ∈ found past, _ ∧ _ ∧
      ∀ row ∈ m.1.campaigns.get? id, _))
  | .deleteAudiences id => inferInstanceAs (Decidable (_ → Undisturbed past m.1 id))
  | .insertAudience row => inferInstanceAs (Decidable (_ → Undisturbed past m.1 row.campaignId))
  | .updateExecution id _ _ =>
    inferInstanceAs (Decidable (_ → ∀ e ∈ listed past, _ ∧
      ∀ now ∈ m.1.executions.get? id, _))
  | .insertCampaign _ | .selectCampaign _ _ | .deleteCampaign _ _ | .selectAudiences _
  | .insertVariant _ _ _ | .updateVariant _ _ _ | .selectVariants _ | .insertChannel _
  | .selectChannels _ _ | .deleteTriggers _ | .insertTrigger _ | .selectTriggers _
  | .countExecutions _ | .selectExecutions _ => .isTrue trivial

/-! ### Requests -/

inductive Request where
  | create (request : CampaignCreateRequest) (organizationId createdBy : PyStr)
  | update (campaignId : ℕ) (request : CampaignUpdateRequest) (updatedBy : PyStr)
      (organizationId : Option PyStr)
  | schedule (campaignId : ℕ) (scheduledAt : Option DateTime) (tzName : PyStr)
      (organizationId scheduledBy task : Option PyStr)
  | activate (campaignId : ℕ) (organizationId activatedBy : Option PyStr)
  | pause (campaignId : ℕ) (organizationId pausedBy : Option PyStr)
  | resume (campaignId : ℕ) (organizationId resumedBy : Option PyStr)
  | cancel (campaignId : ℕ) (reason organizationId cancelledBy : Option PyStr)
  | delete (campaignId : ℕ) (organizationId : Option PyStr)

def Request.serve (now : Timestamp) : Request → CampaignM Unit
  | create request organizationId createdBy =>
    (createCampaign now request organizationId createdBy).void
  | update id request updatedBy organizationId =>
    (updateCampaign id request updatedBy organizationId).void
  | schedule id scheduledAt tzName organizationId scheduledBy task =>
    (scheduleCampaign now id scheduledAt tzName organizationId scheduledBy task).void
  | activate id organizationId activatedBy =>
    (activateCampaign id organizationId activatedBy).void
  | pause id organizationId pausedBy => (pauseCampaign now id organizationId pausedBy).void
  | resume id organizationId resumedBy => (resumeCampaign id organizationId resumedBy).void
  | cancel id reason organizationId cancelledBy =>
    (cancelCampaign now id reason organizationId cancelledBy).void
  | delete id organizationId => (deleteCampaign now id organizationId).void

def CampaignPool.start {ι : Type*} (s : Moment) (requests : ι → Timestamp × Request) :
    CampaignPool ι :=
  Pool.start s fun i => (requests i).2.serve (requests i).1

def Shifts (m m' : Moment) : Prop := m.1.Follows m'.1

abbrev CampaignRun {ι : Type*} [DecidableEq ι] : CampaignPool ι → CampaignPool ι → Prop :=
  Pool.Reach handle Shifts fun i past => Orderly (past i)

/-! ### Moments -/

theorem Store.Follows.refl (s : Store) : s.Follows s :=
  ⟨fun _ row hrow => ⟨row, hrow, .refl, fun h => h⟩, fun _ e he _ => ⟨e, he, rfl⟩⟩

theorem Store.Follows.trans {s s' s'' : Store} (h : s.Follows s') (h' : s'.Follows s'') :
    s.Follows s'' := by
  refine ⟨fun id row hrow => ?_, fun id e he hended => ?_⟩
  · obtain ⟨row', hrow', hstatus, hdeleted⟩ := h.campaigns id row hrow
    obtain ⟨row'', hrow'', hstatus', hdeleted'⟩ := h'.campaigns id row' hrow'
    exact ⟨row'', hrow'', hstatus.trans hstatus', fun hd => hdeleted' (hdeleted hd)⟩
  · obtain ⟨e', he', hstatus⟩ := h.executions id e he hended
    obtain ⟨e'', he'', hstatus'⟩ := h'.executions id e' he' (hstatus ▸ hended)
    exact ⟨e'', he'', hstatus'.trans hstatus⟩

theorem eq_of_terminal {status status' : CampaignStatus}
    (h : Relation.ReflTransGen Edge status status') (hterminal : validTransitions status = []) :
    status' = status := by
  induction h with
  | refl => rfl
  | tail _ hedge ih =>
    rw [ih, Edge, hterminal] at hedge
    exact absurd hedge List.not_mem_nil

theorem Store.Follows.terminal {s s' : Store} (h : s.Follows s') {id : ℕ} {row : CampaignRow}
    (hrow : row ∈ s.campaigns.get? id) (hterminal : validTransitions row.status = []) :
    ∃ row' ∈ s'.campaigns.get? id, row'.status = row.status := by
  obtain ⟨row', hrow', hstatus, -⟩ := h.campaigns id row hrow
  exact ⟨row', hrow', eq_of_terminal hstatus hterminal⟩

def campaignTerms : Terms Moment where
  inv _ := True
  rel m m' := m.1.Follows m'.1
  rel_refl m := .refl m.1
  rel_trans := .trans

/-! ### What a statement does -/

section Statements

variable {past : CampaignPast} {m : Moment} {s : Store} {c : Call}

def Passed (past : CampaignPast) (campaignId : ℕ) : Prop :=
  ∃ campaign ∈ found past, campaign.id = campaignId ∧ campaign.val.status ≠ .running ∧
    campaign.val.status ≠ .completed ∧ campaign.val.status ≠ .cancelled

theorem Passed.of_eq {past' : CampaignPast} {id : ℕ} (h : Passed past id)
    (hfound : found past' = found past) : Passed past' id := by
  obtain ⟨campaign, hmem, hpassed⟩ := h
  exact ⟨campaign, hfound ▸ hmem, hpassed⟩

def Promised (past : CampaignPast) : Call → Prop
  | .updateCampaign id updates => (∃ campaign ∈ found past, campaign.id = id ∧
      ∀ status ∈ updates.status, Edge campaign.val.status status) ∧
        (updates.status = none → Passed past id)
  | .deleteAudiences id => Passed past id
  | .insertAudience row => Passed past row.campaignId
  | .updateExecution id _ _ => ∃ e ∈ listed past, e.id = id
  | _ => True

theorem editable_of_undisturbed {id : ℕ} (hpassed : Passed past id)
    (h : Undisturbed past s id) : s.Editable id := by
  obtain ⟨campaign, hfound, -, hrunning, hcompleted, hcancelled⟩ := hpassed
  obtain ⟨-, hscheduled, hactive, hstill⟩ := h campaign hfound
  intro row hrow
  obtain ⟨hstatus, hdeleted⟩ := hstill row hrow
  refine ⟨hdeleted, ?_⟩
  rw [hstatus]
  revert hrunning hcompleted hcancelled hscheduled hactive
  cases campaign.val.status <;> simp [CampaignStatus.Editable]

theorem lawful_of_orderly (hc : Promised past c) (horderly : Orderly past m c) :
    Lawful (m, c) := by
  cases c with
  | updateCampaign id updates =>
    obtain ⟨⟨campaign, hfound, -, hedge⟩, hpassed⟩ := hc
    intro hlink row hrow
    obtain ⟨hedit, -, hstill⟩ := horderly hlink campaign hfound
    obtain ⟨hstatus, hdeleted⟩ := hstill row hrow
    refine ⟨fun status hmem => ?_, hdeleted, fun hnone => ?_⟩
    · rcases hstatus with hsame | hwritten
      · rw [hsame]
        exact .inr (hedge status hmem)
      · exact .inl (Option.mem_unique hmem hwritten)
    · obtain ⟨campaign', hfound', -, hrunning, hcompleted, hcancelled⟩ := hpassed hnone
      obtain rfl := Option.mem_unique hfound hfound'
      obtain ⟨hscheduled, hactive⟩ := hedit hnone
      rw [hnone] at hstatus
      rw [hstatus.resolve_right nofun]
      revert hrunning hcompleted hcancelled hscheduled hactive
      cases campaign.val.status <;> simp [CampaignStatus.Editable]
  | deleteAudiences id => exact fun hlink => editable_of_undisturbed hc (horderly hlink)
  | insertAudience row => exact fun hlink => editable_of_undisturbed hc (horderly hlink)
  | updateExecution id status pausedAt =>
    obtain ⟨e, hlisted, -⟩ := hc
    intro hlink now hnow hended
    obtain ⟨hlater, hstill⟩ := horderly hlink e hlisted
    rcases hstill now hnow with hsame | hwritten
    · rw [hsame] at hended ⊢
      exact (hlater hended).symm
    · exact hwritten.symm
  | _ => trivial

theorem follows_modify {id : ℕ} {change : CampaignRow → CampaignRow}
    (hstatus : ∀ row ∈ s.campaigns.get? id,
      (change row).status = row.status ∨ Edge row.status (change row).status)
    (hdeleted : ∀ row, row.deletedAt.isSome → (change row).deletedAt.isSome) :
    s.Follows { s with campaigns := s.campaigns.modify id change } := by
  refine ⟨fun j row hrow => ?_, fun _ e he _ => ⟨e, he, rfl⟩⟩
  by_cases hj : id = j
  · subst hj
    refine ⟨change row, Table.get?_modify_self hrow change, ?_, hdeleted row⟩
    rcases hstatus row hrow with hsame | hedge
    · rw [hsame]
    · exact .single hedge
  · exact ⟨row, (Table.get?_modify_ne hj _ _).trans hrow, .refl, fun h => h⟩

theorem follows_of_eq {s' : Store} (hcampaigns : s'.campaigns = s.campaigns)
    (hexecutions : s'.executions = s.executions) : s.Follows s' :=
  ⟨fun _ row hrow => ⟨row, hcampaigns ▸ hrow, .refl, fun h => h⟩,
    fun _ e he _ => ⟨e, hexecutions ▸ he, rfl⟩⟩

theorem follows_referring {ρ : Type} {id : ℕ} {reply : ρ} {inserted : Store}
    (hcampaigns : inserted.campaigns = s.campaigns)
    (hexecutions : inserted.executions = s.executions) :
    s.Follows (s.referring id reply inserted).2 := by
  rw [Store.referring]
  split
  · exact follows_of_eq hcampaigns hexecutions
  · exact .refl s

theorem follows_execute (link : Link) (hlink : link ≠ .down) (hlawful : Lawful ((s, link), c)) :
    s.Follows (execute c s).2 := by
  cases c with
  | insertCampaign row =>
    exact ⟨fun id old hold => ⟨old, Table.get?_insert_of_some hold row, .refl, fun h => h⟩,
      fun _ e he _ => ⟨e, he, rfl⟩⟩
  | updateCampaign id updates =>
    refine follows_modify (fun row hrow => ?_) fun _ h => h
    have hstatus := (hlawful hlink row hrow).1
    cases hnew : updates.status with
    | none => exact .inl (by rw [CampaignUpdates.apply, hnew]; rfl)
    | some status =>
      rw [CampaignUpdates.apply, hnew]
      exact hstatus status hnew
  | deleteCampaign id now =>
    exact follows_modify (fun _ _ => .inl rfl) fun row _ => by simp [CampaignRow.delete]
  | updateExecution id status pausedAt =>
    refine ⟨fun _ row hrow => ⟨row, hrow, .refl, fun h => h⟩, fun j e he hended => ?_⟩
    by_cases hj : id = j
    · subst hj
      exact ⟨_, Table.get?_modify_self he _, hlawful hlink e he hended⟩
    · exact ⟨e, (Table.get?_modify_ne hj _ _).trans he, rfl⟩
  | insertAudience row => exact follows_referring rfl rfl
  | insertTrigger row => exact follows_referring rfl rfl
  | insertChannel row =>
    rw [execute]
    split
    · exact follows_referring rfl rfl
    · exact .refl s
  | insertVariant id variant allocation =>
    rw [execute]
    split
    · exact .refl s
    · exact follows_referring rfl rfl
  | updateVariant id variantId allocation =>
    rw [execute]
    split
    · split <;> exact .refl s
    · exact follows_of_eq rfl rfl
  | _ => exact follows_of_eq rfl rfl

theorem follows_handle (hlawful : Lawful (m, c)) : m.1.Follows (handle c m).2.1 := by
  obtain ⟨s, link⟩ := m
  cases link with
  | up => exact follows_execute .up nofun hlawful
  | down => exact .refl s
  | lost => exact follows_execute .lost nofun hlawful

end Statements

/-! ### What the programs keep -/

section Programs

variable {past : CampaignPast} {m : Moment} {α β : Type}

/-- A program keeps its promises, and ends as `Q` says. -/
abbrev LifecycleSound (Q : Except CampaignError α → CampaignPast → Prop) (p : CampaignM α) :
    CampaignPast → Moment → Prop :=
  p.Sound campaignTerms handle Orderly (fun past _ c => Promised past c) fun r past _ => Q r past

def Call.Plain : Call → Prop
  | insertCampaign _ => False
  | selectCampaign _ _ => False
  | updateCampaign _ _ => False
  | deleteAudiences _ => False
  | insertAudience _ => False
  | selectExecutions _ => False
  | updateExecution _ _ _ => False
  | _ => True

theorem Call.Plain.promised {c : Call} (hc : c.Plain) : Promised past c := by
  cases c with
  | updateCampaign id updates => exact hc.elim
  | deleteAudiences id => exact hc.elim
  | insertAudience row => exact hc.elim
  | updateExecution id status pausedAt => exact hc.elim
  | _ => trivial

theorem Call.Plain.found_cons {c : Call} (hc : c.Plain) : found ((m, c) :: past) = found past := by
  cases c with
  | insertCampaign row => exact hc.elim
  | selectCampaign id org => exact hc.elim
  | _ => rfl

theorem plain_sound {p : CampaignM α} {campaign : Option (Row CampaignRow)}
    (hp : p.Only Call.Plain) (hfound : found past = campaign) :
    LifecycleSound (fun _ past => found past = campaign) p past m :=
  hp.sound hfound fun _ hc _ _ h => ⟨hc.promised, hc.found_cons.trans h⟩

theorem plain_bind {p : CampaignM α} {f : α → CampaignM β} {campaign : Option (Row CampaignRow)}
    {Q : Except CampaignError β → CampaignPast → Prop} (hp : p.Only Call.Plain)
    (hfound : found past = campaign)
    (hok : ∀ a past m, found past = campaign → LifecycleSound Q (f a) past m)
    (herror : ∀ e past, found past = campaign → Q (.error e) past) :
    LifecycleSound Q (p >>= f) past m :=
  (plain_sound hp hfound).bind hok fun e past _ h => herror e past h

theorem plain_loads {id : ℕ} : Loads Call.Plain id :=
  ⟨trivial, trivial, fun _ => trivial, trivial⟩

/-! ### Finding a campaign -/

theorem ask_keeps {c : Call} (hc : ∀ m, found ((m, c) :: past) = found past)
    (hpromise : Promised past c) :
    LifecycleSound (fun _ past' => found past' = found past) (ask c) past m :=
  sound_query (I := CampaignApi) (c := c) fun _ _ _ => ⟨hpromise, fun _ _ _ _ => hc _⟩

theorem loaded_sound {id : ℕ} {row : Option CampaignRow} (hfound : found past = row.map (⟨id, ·⟩)) :
    LifecycleSound (fun r past => ∀ campaign, r = .ok (some campaign) →
        ∃ row, found past = some ⟨id, row⟩ ∧ campaign.status = row.status)
      (loaded id row) past m := by
  cases row with
  | none => exact fun _ _ _ _ h => by cases h
  | some row =>
    refine plain_bind (getAudiences_only trivial) hfound (fun _ past m hfound => ?_)
      fun _ _ _ _ h => by cases h
    refine plain_bind (getVariants_only trivial fun _ => trivial) hfound
      (fun _ past m hfound => ?_)
      fun _ _ _ _ h => by cases h
    refine plain_bind (getTriggers_only trivial) hfound (fun _ past m hfound => ?_)
      fun _ _ _ _ h => by cases h
    rintro _ _ _ _ ⟨⟩
    exact ⟨row, hfound, rfl⟩

theorem selectCampaign_sound (id : ℕ) (org : Option PyStr) :
    LifecycleSound (fun r past => ∀ campaign, r = .ok (some campaign) →
        ∃ row, found past = some ⟨id, row⟩ ∧ campaign.status = row.status)
      (selectCampaign id org) past m := by
  refine Sound.bind (Q := fun r past _ => ∀ row, r = .ok row →
    found past = row.map (⟨id, ·⟩)) ?_ (fun row past m h => loaded_sound (h row rfl))
    fun _ _ _ _ _ h => by cases h
  refine sound_query (I := CampaignApi) (c := Call.selectCampaign id org)
    fun m' _ _ => ⟨trivial, fun _ _ _ _ row hrow => ?_⟩
  obtain ⟨s, link⟩ := m'
  cases link with
  | up =>
    obtain rfl : s.selectCampaign id org = row := Except.ok.inj hrow
    rfl
  | down => cases hrow
  | lost => cases hrow

theorem getCampaign_sound (id : ℕ) (org : Option PyStr) :
    LifecycleSound (fun r past => ∀ campaign, r = .ok campaign →
        ∃ row, found past = some ⟨id, row⟩ ∧ campaign.status = row.status)
      (getCampaign id org) past m := by
  refine (selectCampaign_sound id _).bind (fun campaign past m h => ?_) fun _ _ _ _ _ h => by cases h
  cases campaign with
  | none => exact fun _ _ _ _ h => by cases h
  | some campaign =>
    rintro _ _ _ _ ⟨⟩
    exact h campaign rfl

theorem getCampaign_bind {id : ℕ} {org : Option PyStr} {f : Campaign → CampaignM α}
    {Q : Except CampaignError α → CampaignPast → Prop}
    (hok : ∀ campaign past m row, found past = some ⟨id, row⟩ → campaign.status = row.status →
      LifecycleSound Q (f campaign) past m)
    (herror : ∀ e past, Q (.error e) past) :
    LifecycleSound Q (getCampaign id org >>= f) past m :=
  (getCampaign_sound id org).bind
    (fun campaign past m h => by
      obtain ⟨row, hfound, hstatus⟩ := h campaign rfl
      exact hok campaign past m row hfound hstatus)
    fun e past _ _ => herror e past

/-! ### Writing -/

theorem updateColumns_sound {id : ℕ} {updates : CampaignUpdates}
    (hpromise : Promised past (.updateCampaign id updates)) :
    LifecycleSound (fun _ past' => found past' = found past) (updateColumns id updates) past m :=
  (ask_keeps (fun _ => rfl) hpromise).bind
    (fun row _ _ h => plain_sound (loaded_only plain_loads row) h) fun _ _ _ h => h

theorem insertAudiences_sound {id : ℕ} (audiences : List CampaignAudience)
    (hpassed : Passed past id) :
    LifecycleSound (fun _ past => Passed past id)
      (each (fun audience => ask (.insertAudience (audience.toRow id))) audiences) past m := by
  induction audiences generalizing past m with
  | nil => exact fun _ _ _ => hpassed
  | cons audience audiences ih =>
    exact (ask_keeps (c := .insertAudience (audience.toRow id)) (fun _ => rfl) hpassed).bind
      (fun _ _ _ h => ih (hpassed.of_eq h)) fun _ _ _ h => hpassed.of_eq h

theorem saveAudiences_sound {id : ℕ} (audiences : List CampaignAudience)
    (hpassed : Passed past id) :
    LifecycleSound (fun _ past => Passed past id) (saveAudiences id audiences) past m := by
  refine (ask_keeps (c := .deleteAudiences id) (fun _ => rfl) hpassed).bind
    (fun _ past' m h => ?_) fun _ _ _ h => hpassed.of_eq h
  exact (insertAudiences_sound audiences (hpassed.of_eq h)).bind (fun _ _ _ h _ _ _ => h)
    fun _ _ _ h => h

theorem latestExecution_sound (id : ℕ) :
    LifecycleSound (fun r past' => found past' = found past ∧
        ∀ e, r = .ok (some e) → listed past' = some e)
      (latestExecution id) past m := by
  refine (ask_keeps (c := .countExecutions id) (fun _ => rfl) trivial).bind
    (fun _ past' m h => ?_) fun _ _ _ h => ⟨h, fun _ h => by cases h⟩
  refine sound_query (I := CampaignApi) (c := Call.selectExecutions id)
    fun m' _ _ => ⟨trivial, fun _ _ _ _ => ⟨h, fun e he => ?_⟩⟩
  obtain ⟨s, link⟩ := m'
  cases link with
  | up => exact Except.ok.inj he
  | down => cases he
  | lost => cases he

theorem markLatest_sound (id : ℕ) (status : ExecutionStatus) (pausedAt : Option Timestamp) :
    LifecycleSound (fun _ past' => found past' = found past) (markLatest id status pausedAt)
      past m := by
  refine (latestExecution_sound id).bind (fun execution past' m h => ?_) fun _ _ _ h => h.1
  obtain ⟨hfound, hlisted⟩ := h
  cases execution with
  | none => exact fun _ _ _ => hfound
  | some execution =>
    have hwrite := ask_keeps (m := m) (c := .updateExecution execution.id status pausedAt)
      (fun _ => rfl) ⟨execution, hlisted execution rfl, rfl⟩
    exact hwrite.bind (fun _ _ _ h _ _ _ => h.trans hfound) fun _ _ _ h => h.trans hfound

theorem targetStatus_sound (campaign : Campaign) :
    LifecycleSound (fun r past' => found past' = found past ∧
        ∀ status, r = .ok status → status = .running ∨ status = .active)
      (targetStatus campaign) past m := by
  rw [targetStatus]
  split
  · refine (latestExecution_sound campaign.campaignId).bind (fun execution past' m h => ?_)
      fun _ _ _ h => ⟨h.1, fun _ h => by cases h⟩
    cases execution with
    | none => exact fun _ _ _ => ⟨h.1, fun _ h => .inr (Except.ok.inj h).symm⟩
    | some execution =>
      intro _ _ _
      refine ⟨h.1, fun status hstatus => ?_⟩
      obtain rfl := Except.ok.inj hstatus
      by_cases hpaused : execution.val.status = .paused <;> simp [hpaused]
  · exact fun _ _ _ => ⟨rfl, fun _ h => .inl (Except.ok.inj h).symm⟩

/-! ### The methods -/

theorem createCampaign_sound (now : Timestamp) (request : CampaignCreateRequest)
    (organizationId createdBy : PyStr) :
    LifecycleSound (fun _ _ => True) (createCampaign now request organizationId createdBy) []
      m := by
  refine plain_bind (validateCampaignCreateRequest_only request) rfl (fun _ past m _ => ?_)
    fun _ _ _ => trivial
  refine plain_bind only_require rfl (fun _ past m _ => ?_) fun _ _ _ => trivial
  refine plain_bind (validScheduledAt_only now request.scheduledAt) rfl
    (fun scheduledAt past m _ => ?_) fun _ _ _ => trivial
  refine Sound.bind (Q := fun r past _ => ∀ id, r = .ok id →
    found past = some ⟨id, request.toRow organizationId createdBy scheduledAt⟩) ?_
    (fun id past m h => ?_) fun _ _ _ _ => trivial
  · refine sound_query (I := CampaignApi) (c := Call.insertCampaign _)
      fun m' _ _ => ⟨trivial, fun _ _ _ _ id hid => ?_⟩
    obtain ⟨s, link⟩ := m'
    cases link with
    | up =>
      obtain rfl : s.campaigns.size = id := Except.ok.inj hid
      rfl
    | down => cases hid
    | lost => cases hid
  · have hfound := h id rfl
    have hpassed : Passed past id := ⟨_, hfound, rfl, nofun, nofun, nofun⟩
    refine Sound.bind (Q := fun _ _ _ => True) ?_ (fun _ past m _ => ?_) fun _ _ _ _ => trivial
    · rw [whereGiven]
      split
      · exact fun _ _ _ => trivial
      · exact (saveAudiences_sound request.audiences hpassed).mono fun _ _ _ _ => trivial
    · have hvariants : (makeVariants id request.drafts).Only Call.Plain :=
        makeVariants_only fun _ _ => makeVariant_only (fun _ => trivial) fun _ _ _ => trivial
      have htriggers : (whereGiven (saveTriggers id) (request.triggers.map (·.asNew))).Only
          Call.Plain := whereGiven_only (saveTriggers_only trivial fun _ _ => trivial)
      exact plain_bind hvariants rfl (fun _ past m _ =>
        plain_bind htriggers rfl (fun _ _ _ _ => fun _ _ _ => trivial) fun _ _ _ => trivial)
        fun _ _ _ => trivial

theorem updateCampaign_sound (id : ℕ) (request : CampaignUpdateRequest) (updatedBy : PyStr)
    (organizationId : Option PyStr) :
    LifecycleSound (fun _ _ => True) (updateCampaign id request updatedBy organizationId) []
      m := by
  refine getCampaign_bind (fun campaign past m row hfound hstatus => ?_) fun _ _ => trivial
  refine sound_require_bind (fun hcheck => ?_) fun _ _ _ _ => trivial
  rw [hstatus] at hcheck
  have hpassed : Passed past id := ⟨⟨id, row⟩, hfound, rfl, hcheck⟩
  refine sound_require_bind (fun _ => ?_) fun _ _ _ _ => trivial
  have hpromise : Promised past (.updateCampaign id (request.updates campaign updatedBy)) :=
    ⟨⟨⟨id, row⟩, hfound, rfl, fun _ h => absurd h (Option.not_mem_none _)⟩, fun _ => hpassed⟩
  refine (updateColumns_sound hpromise).bind (fun edited past' m h => ?_) fun _ _ _ _ => trivial
  cases request.audiences with
  | none => exact fun _ _ _ => trivial
  | some audiences =>
    refine sound_require_bind (fun _ => ?_) fun _ _ _ _ => trivial
    refine (saveAudiences_sound audiences (hpassed.of_eq h)).bind (fun _ _ _ _ => ?_)
      fun _ _ _ _ => trivial
    cases edited <;> exact fun _ _ _ => trivial

theorem deleteCampaign_sound (now : Timestamp) (id : ℕ) (organizationId : Option PyStr) :
    LifecycleSound (fun _ _ => True) (deleteCampaign now id organizationId) [] m := by
  refine getCampaign_bind (fun campaign past m row hfound hstatus => ?_) fun _ _ => trivial
  refine sound_require_bind (fun _ => ?_) fun _ _ _ _ => trivial
  exact (ask_keeps (c := .deleteCampaign id now) (fun _ => rfl) trivial).mono fun _ _ _ _ => trivial

theorem promised_status {id : ℕ} {row : CampaignRow} {updates : CampaignUpdates}
    {status : CampaignStatus} (hfound : found past = some ⟨id, row⟩)
    (hupdates : updates.status = some status) (hedge : Edge row.status status) :
    Promised past (.updateCampaign id updates) := by
  refine ⟨⟨⟨id, row⟩, hfound, rfl, fun status' hmem => ?_⟩, fun hnone => ?_⟩
  · obtain rfl := Option.some.inj (hupdates.symm.trans hmem)
    exact hedge
  · rw [hupdates] at hnone
    cases hnone

theorem scheduleCampaign_sound (now : Timestamp) (id : ℕ) (scheduledAt : Option DateTime)
    (tzName : PyStr) (organizationId scheduledBy task : Option PyStr) :
    LifecycleSound (fun _ _ => True)
      (scheduleCampaign now id scheduledAt tzName organizationId scheduledBy task) [] m := by
  refine getCampaign_bind (fun campaign past m row hfound hstatus => ?_) fun _ _ => trivial
  refine sound_require_bind (fun _ => ?_) fun _ _ _ _ => trivial
  refine sound_require_bind (fun hdraft => ?_) fun _ _ _ _ => trivial
  refine sound_require_bind (fun _ => ?_) fun _ _ _ _ => trivial
  refine sound_require_bind (fun _ => ?_) fun _ _ _ _ => trivial
  have hedge : Edge row.status .scheduled := by
    rw [← hstatus, hdraft]
    decide
  cases scheduledAt.or (campaign.scheduledAt.map ({ instant := · })) with
  | none => exact fun _ _ _ => trivial
  | some time =>
    refine sound_require_bind (fun _ => ?_) fun _ _ _ _ => trivial
    refine sound_require_bind (fun _ => ?_) fun _ _ _ _ => trivial
    exact (updateColumns_sound (promised_status hfound rfl hedge)).mono fun _ _ _ _ => trivial

theorem activateCampaign_sound (id : ℕ) (organizationId activatedBy : Option PyStr) :
    LifecycleSound (fun _ _ => True) (activateCampaign id organizationId activatedBy) [] m := by
  refine getCampaign_bind (fun campaign past m row hfound hstatus => ?_) fun _ _ => trivial
  refine sound_require_bind (fun _ => ?_) fun _ _ _ _ => trivial
  refine sound_require_bind (fun hdraft => ?_) fun _ _ _ _ => trivial
  refine sound_require_bind (fun _ => ?_) fun _ _ _ _ => trivial
  refine sound_require_bind (fun _ => ?_) fun _ _ _ _ => trivial
  have hedge : Edge row.status .active := by
    rw [← hstatus, hdraft]
    decide
  refine (updateColumns_sound (promised_status hfound rfl hedge)).bind (fun _ _ _ _ => ?_)
    fun _ _ _ _ => trivial
  exact sound_require_bind (fun _ _ _ _ => trivial) fun _ _ _ _ => trivial

theorem pauseCampaign_sound (now : Timestamp) (id : ℕ) (organizationId pausedBy : Option PyStr) :
    LifecycleSound (fun _ _ => True) (pauseCampaign now id organizationId pausedBy) [] m := by
  refine getCampaign_bind (fun campaign past m row hfound hstatus => ?_) fun _ _ => trivial
  refine sound_require_bind (fun hcheck => ?_) fun _ _ _ _ => trivial
  rw [hstatus] at hcheck
  have hedge : Edge row.status .paused := by
    rcases hcheck with h | h <;> rw [h] <;> decide
  refine (updateColumns_sound (promised_status hfound rfl hedge)).bind (fun _ _ _ _ => ?_)
    fun _ _ _ _ => trivial
  exact (markLatest_sound id _ _).bind (fun _ _ _ _ _ _ _ => trivial) fun _ _ _ _ => trivial

theorem resumeCampaign_sound (id : ℕ) (organizationId resumedBy : Option PyStr) :
    LifecycleSound (fun _ _ => True) (resumeCampaign id organizationId resumedBy) [] m := by
  refine getCampaign_bind (fun campaign past m row hfound hstatus => ?_) fun _ _ => trivial
  refine sound_require_bind (fun hpaused => ?_) fun _ _ _ _ => trivial
  refine (targetStatus_sound campaign).bind (fun status past' m h => ?_) fun _ _ _ _ => trivial
  obtain ⟨hsame, htarget⟩ := h
  have hedge : Edge row.status status := by
    rw [← hstatus, hpaused]
    rcases htarget status rfl with h | h <;> rw [h] <;> decide
  refine (updateColumns_sound (promised_status (hsame.trans hfound) rfl hedge)).bind
    (fun _ _ _ _ => ?_) fun _ _ _ _ => trivial
  exact (markLatest_sound id _ _).bind (fun _ _ _ _ _ _ _ => trivial) fun _ _ _ _ => trivial

theorem cancelCampaign_sound (now : Timestamp) (id : ℕ)
    (reason organizationId cancelledBy : Option PyStr) :
    LifecycleSound (fun _ _ => True) (cancelCampaign now id reason organizationId cancelledBy) []
      m := by
  refine getCampaign_bind (fun campaign past m row hfound hstatus => ?_) fun _ _ => trivial
  refine sound_require_bind (fun hcheck => ?_) fun _ _ _ _ => trivial
  rw [hstatus] at hcheck
  have hedge : Edge row.status .cancelled := by
    revert hcheck
    cases row.status <;> decide
  refine (markLatest_sound id _ _).bind (fun _ past' m hsame => ?_) fun _ _ _ _ => trivial
  exact (updateColumns_sound (promised_status (hsame.trans hfound) rfl hedge)).mono
    fun _ _ _ _ => trivial

theorem serve_sound (now : Timestamp) (request : Request) :
    LifecycleSound (fun _ _ => True) (request.serve now) [] m := by
  cases request with
  | create request organizationId createdBy =>
    exact sound_void (createCampaign_sound now request organizationId createdBy)
  | update id request updatedBy organizationId =>
    exact sound_void (updateCampaign_sound id request updatedBy organizationId)
  | schedule id scheduledAt tzName organizationId scheduledBy task =>
    exact sound_void
      (scheduleCampaign_sound now id scheduledAt tzName organizationId scheduledBy task)
  | activate id organizationId activatedBy =>
    exact sound_void (activateCampaign_sound id organizationId activatedBy)
  | pause id organizationId pausedBy =>
    exact sound_void (pauseCampaign_sound now id organizationId pausedBy)
  | resume id organizationId resumedBy =>
    exact sound_void (resumeCampaign_sound id organizationId resumedBy)
  | cancel id reason organizationId cancelledBy =>
    exact sound_void (cancelCampaign_sound now id reason organizationId cancelledBy)
  | delete id organizationId => exact sound_void (deleteCampaign_sound now id organizationId)

end Programs

/-! ### Runs -/

section Runs

variable {ι : Type*} [DecidableEq ι] {m : Moment} {requests : ι → Timestamp × Request}
  {pool : CampaignPool ι}

omit [DecidableEq ι] in
theorem allSound_start :
    Pool.AllSound campaignTerms handle (fun _ => Orderly) (fun _ past _ => Promised past)
      (fun _ _ _ _ => True) (CampaignPool.start m requests) :=
  ⟨trivial, fun i => serve_sound (requests i).1 (requests i).2⟩

theorem lawful_of_run (hpool : CampaignRun (CampaignPool.start m requests) pool) :
    ∀ i, ∀ e ∈ pool.past i, Lawful e := by
  refine hpool.invariant allSound_start (fun _ _ _ _ h => h)
    (fun _ _ _ _ _ horderly hc => ⟨trivial, follows_handle (lawful_of_orderly hc horderly)⟩)
    (fun _ _ _ h => ⟨trivial, h⟩) (fun _ past => ∀ i, ∀ e ∈ past i, Lawful e)
    (fun _ _ he => absurd he List.not_mem_nil) (fun _ _ _ _ h => h)
    fun i past m c _ horderly hc h j e he => ?_
  by_cases hji : j = i
  · subst hji
    rw [Function.update_self] at he
    rcases List.mem_cons.mp he with rfl | he
    · exact lawful_of_orderly hc horderly
    · exact h j e he
  · rw [Function.update_of_ne hji] at he
    exact h j e he

theorem follows_of_run {pool' : CampaignPool ι}
    (hpool : CampaignRun (CampaignPool.start m requests) pool) (hlater : CampaignRun pool pool') :
    pool.state.1.Follows pool'.state.1 := by
  have hkeeps : ∀ (i : ι) past m c, campaignTerms.inv m → Orderly past m c → Promised past c →
      campaignTerms.inv (handle c m).2 ∧ campaignTerms.rel m (handle c m).2 :=
    fun _ _ _ _ _ horderly hc => ⟨trivial, follows_handle (lawful_of_orderly hc horderly)⟩
  have hall := hpool.sound allSound_start (fun _ _ _ _ h => h) hkeeps fun _ _ _ h => ⟨trivial, h⟩
  exact hlater.later hall (fun _ _ _ _ h => h) hkeeps fun _ _ _ h => ⟨trivial, h⟩

/-- **The lifecycle is kept** as long as every call is orderly, whatever statements fail and
whatever executes campaigns: each statement is lawful, and between any two moments statuses have
changed along the table, those without successors have not, and what was deleted still is. -/
theorem campaigns_of_orderly {pool' : CampaignPool ι}
    (hpool : CampaignRun (CampaignPool.start m requests) pool) (hlater : CampaignRun pool pool') :
    (∀ i, ∀ e ∈ pool'.past i, Lawful e) ∧ pool.state.1.Follows pool'.state.1 ∧
      ∀ id, ∀ row ∈ pool.state.1.campaigns.get? id,
        row.status = .cancelled ∨ row.status = .completed →
          ∃ row' ∈ pool'.state.1.campaigns.get? id, row'.status = row.status := by
  have hfollows := follows_of_run hpool hlater
  refine ⟨lawful_of_run (hpool.trans hlater), hfollows, fun id row hrow hstatus => ?_⟩
  refine hfollows.terminal hrow ?_
  rcases hstatus with h | h <;> rw [h] <;> rfl

end Runs

/-! ### Runs that break the laws -/

def draftRow : CampaignRow :=
  { organizationId := ['o'], name := ['n'], campaignType := .scheduled
    scheduledAt := some minSchedule, timezone := [], createdBy := ['c'] }

def storeWith (row : CampaignRow) (status : ExecutionStatus) : Store :=
  { campaigns := ⟨[row]⟩
    audiences := [CampaignAudience.toRow 0
      { segmentType := .included, segmentId := some ['s'], segmentQuery := none, name := none }]
    variants := ⟨[{ campaignId := 0, name := ['v'], description := none
                    allocationPercentage := 100, isControl := false }]⟩
    channels := []
    triggers := []
    executions := ⟨[{ campaignId := 0, status, createdAt := 0 }]⟩ }

def schedule : Timestamp × Request := (0, .schedule 0 none [] none none none)

def both (first second : Timestamp × Request) : Fin 2 → Timestamp × Request
  | 0 => first
  | 1 => second

def inTurn (row : CampaignRow) (status : ExecutionStatus) (first second : Timestamp × Request) :
    CampaignPool (Fin 2) :=
  (CampaignPool.start (storeWith row status, .up) (both first second)).schedule handle
    (List.replicate 16 0 ++ List.replicate 16 1)

def pause : Timestamp × Request := (0, .pause 0 none none)

def cancel : Timestamp × Request := (0, .cancel 0 none none none)

def cancelledBetween : CampaignPool (Fin 2) :=
  (CampaignPool.start (storeWith { draftRow with status := .active } .running, .up)
    (both pause cancel)).schedule handle (List.replicate 5 0 ++ List.replicate 16 1)

def pausedAfter : CampaignPool (Fin 2) := cancelledBetween.schedule handle [0]

/-- A campaign that is scheduled is edited, one that is deleted is scheduled, an execution that is
completed is paused, and a campaign that is cancelled is. -/
theorem not_campaigns_inTurn :
    (∀ row status first second, Pool.Reach handle Shifts Pool.anyCall
      (CampaignPool.start (storeWith row status, .up) (both first second))
      (inTurn row status first second)) ∧
    (∃ e ∈ (inTurn draftRow .pending schedule
      (0, .update 0 { name := some ['m'] } [] none)).past 1, ¬Lawful e) ∧
    (∃ e ∈ (inTurn draftRow .pending (0, .delete 0 none) schedule).past 1, ¬Lawful e) ∧
    (∃ e ∈ (inTurn { draftRow with status := .running } .completed pause cancel).past 0,
      ¬Lawful e) ∧
    (Pool.Reach handle Shifts Pool.anyCall
        (CampaignPool.start (storeWith { draftRow with status := .active } .running, .up)
          (both pause cancel)) cancelledBetween ∧
      Pool.Reach handle Shifts Pool.anyCall cancelledBetween pausedAfter ∧
        ¬cancelledBetween.state.1.Follows pausedAfter.state.1) := by
  refine ⟨fun _ _ _ _ => Pool.Reach.start.schedule (Pool.permitted_anyCall _ _ _),
    by decide +kernel, by decide +kernel, by decide +kernel,
    Pool.Reach.start.schedule (Pool.permitted_anyCall _ _ _),
    Pool.Reach.start.schedule (Pool.permitted_anyCall _ _ _), fun h => ?_⟩
  have hcancelled : ∃ row ∈ cancelledBetween.state.1.campaigns.get? 0, row.status = .cancelled := by
    decide +kernel
  have hpaused : ∃ row ∈ pausedAfter.state.1.campaigns.get? 0, row.status = .paused := by
    decide +kernel
  obtain ⟨row, hrow, hstatus⟩ := hcancelled
  obtain ⟨row', hrow', hstatus'⟩ := hpaused
  obtain ⟨row'', hrow'', hstatus''⟩ := h.terminal hrow (by rw [hstatus]; rfl)
  obtain rfl := Option.mem_unique hrow' hrow''
  rw [hstatus, hstatus'] at hstatus''
  cases hstatus''

/-- A draft that is scheduled and then cancelled. -/
theorem campaigns_inTurn :
    (storeWith draftRow .pending).Follows (inTurn draftRow .pending schedule cancel).state.1 := by
  have hstart : CampaignRun (CampaignPool.start (storeWith draftRow .pending, .up)
    (both schedule cancel)) _ := .start
  have hserved : CampaignRun _ (inTurn draftRow .pending schedule cancel) :=
    hstart.schedule (by decide +kernel)
  exact (campaigns_of_orderly hstart hserved).2.1

end IsaUser.Campaigns
