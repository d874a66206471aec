import IsaUser.Campaign.Model

/-!
# The Campaign Service

The methods of `campaign_service.py` that write campaigns, as programs over the statements of the
repository. `VALID_TRANSITIONS` is here, too, though no method consults it: each has checks of its
own on the campaign that it has read.

Events are left out, since `_publish_event` raises nothing. What the task service answers is a
part of the request, and so is the time at which a method looks at the clock.
-/

namespace IsaUser.Campaigns

open Prog

/-! ### Constants -/

def validTransitions : CampaignStatus → List CampaignStatus
  | .draft => [.scheduled, .active, .cancelled]
  | .scheduled => [.running, .draft, .cancelled]
  | .active => [.running, .paused, .draft, .cancelled]
  | .running => [.paused, .completed, .cancelled]
  | .paused => [.running, .active, .cancelled]
  | .completed => []
  | .cancelled => []

/-- `MIN_SCHEDULE_MINUTES`, and of the model. -/
def minSchedule : ℤ := seconds (5 * 60)

/-- `MAX_SEGMENTS_PER_CAMPAIGN`. -/
def maxSegments : ℕ := 10

def maxVariants : ℕ := 5

def maxTriggerDelayDays : ℕ := 30

def maxHoldoutPercentage : ℚ := 20

/-! ### Requests -/

/-- A `datetime`, which may be without a zone. -/
structure DateTime where
  instant : Timestamp
  aware : Bool := true
  deriving DecidableEq

structure CampaignCreateRequest where
  name : PyStr
  description : Option PyStr := none
  campaignType : CampaignType
  scheduleType : Option ScheduleType := none
  scheduledAt : Option DateTime := none
  cronExpression : Option PyStr := none
  timezone : PyStr := []
  throttle : Option ThrottleConfig := none
  audiences : List CampaignAudience := []
  channels : List CampaignChannel := []
  enableAbTesting : Bool := false
  variants : List VariantDraft := []
  triggers : List CampaignTrigger := []
  conversionEventType : Option PyStr := none
  attributionWindowDays : ℤ := 7
  holdoutPercentage : ℚ := 0
  tags : List PyStr := []
  metadata : JsonDict := []

structure CampaignUpdateRequest where
  name : Option PyStr := none
  description : Option PyStr := none
  scheduledAt : Option DateTime := none
  cronExpression : Option PyStr := none
  timezone : Option PyStr := none
  throttle : Option ThrottleConfig := none
  audiences : Option (List CampaignAudience) := none
  tags : Option (List PyStr) := none
  metadata : Option JsonDict := none

/-! ### Validation -/

/-- `_validate_name`. -/
def NameFits (name : PyStr) : Prop := name ≠ [] ∧ name.length ≤ 255
  deriving Decidable

/-- `abs(float(total) - 100.0) > 0.01`. -/
def OffHundred (total : ℚ) : Prop :=
  ∀ t ∈ float total, ∀ d ∈ float |t - 100|, ∀ tolerance ∈ float (1 / 100), tolerance < d
  deriving Decidable

def validateVariants (variants : List VariantDraft) : CampaignM Unit := do
  require (variants.length ≤ maxVariants) .tooManyVariants
  require (¬OffHundred (variants.map (·.allocationPercentage)).sum) .allocationSum
  require ((variants.filter (·.isControl)).length ≤ 1) .twoControls

def CampaignTrigger.totalDelay (trigger : CampaignTrigger) : ℕ :=
  trigger.delayMinutes + trigger.delayDays * 24 * 60

def validateCampaignCreateRequest (request : CampaignCreateRequest) : CampaignM Unit := do
  require (NameFits request.name) (.validation "name")
  require (0 ≤ request.holdoutPercentage ∧ request.holdoutPercentage ≤ maxHoldoutPercentage)
    (.validation "holdout_percentage")
  require (request.audiences.length ≤ maxSegments) (.validation "audiences")
  if request.variants ≠ [] then validateVariants request.variants else pure ()
  require (request.campaignType = .triggered →
      ∀ trigger ∈ request.triggers, trigger.totalDelay ≤ maxTriggerDelayDays * 24 * 60)
    (.validation "triggers")

def validScheduledAt (now : Timestamp) : Option DateTime → CampaignM (Option Timestamp)
  | none => return none
  | some time => do
    require (time.aware = true) .typeError
    require (now + minSchedule ≤ time.instant) .invalidModel
    return some time.instant

def VariantDraft.Valid (variant : VariantDraft) : Prop :=
  (variant.name ≠ [] ∧ variant.name.length ≤ 100) ∧
    (∀ description ∈ variant.description, description.length ≤ 500) ∧
      0 ≤ variant.allocationPercentage ∧ variant.allocationPercentage ≤ 100
  deriving Decidable

/-- `CampaignVariant(…)` and `save_variant`. -/
def makeVariant (campaignId : ℕ) (variant : VariantDraft) : CampaignM CampaignVariant := do
  require variant.Valid .invalidModel
  saveVariant campaignId variant

def makeVariants (campaignId : ℕ) : List VariantDraft → CampaignM (List CampaignVariant)
  | [] => return []
  | variant :: rest => do
    let made ← makeVariant campaignId variant
    let variants ← makeVariants campaignId rest
    return made :: variants

def whereGiven {α : Type} (save : List α → CampaignM (List α)) (l : List α) :
    CampaignM (List α) :=
  if l = [] then return [] else save l

/-! ### Creating, reading and editing -/

def defaultVariant (channels : List CampaignChannel) : VariantDraft :=
  { name := "Default".toList, allocationPercentage := 100, channels }

def CampaignCreateRequest.drafts (request : CampaignCreateRequest) : List VariantDraft :=
  if request.variants ≠ [] then request.variants
  else if request.channels ≠ [] then [defaultVariant request.channels]
  else []

def orDefault (default s : PyStr) : PyStr := if s = [] then default else s

def CampaignCreateRequest.toRow (request : CampaignCreateRequest) (organizationId createdBy : PyStr)
    (scheduledAt : Option Timestamp) : CampaignRow :=
  { organizationId
    name := request.name
    description := request.description
    campaignType := request.campaignType
    scheduleType := request.scheduleType
    scheduledAt
    cronExpression := request.cronExpression
    timezone := orDefault "UTC".toList request.timezone
    holdoutPercentage := request.holdoutPercentage
    tags := request.tags
    metadata := request.metadata
    createdBy
    updatedBy := some createdBy
    throttle := request.throttle.getD {}
    abTest := { enabled := request.enableAbTesting }
    conversion := { conversionEventType := request.conversionEventType
                    attributionWindowDays := request.attributionWindowDays } }

def CampaignTrigger.asNew (trigger : CampaignTrigger) : CampaignTrigger :=
  { trigger with
    quietHoursTimezone := orDefault "user_local".toList trigger.quietHoursTimezone
    enabled := true }

def createCampaign (now : Timestamp) (request : CampaignCreateRequest)
    (organizationId createdBy : PyStr) : CampaignM Campaign := do
  validateCampaignCreateRequest request
  require (1 ≤ request.attributionWindowDays ∧ request.attributionWindowDays ≤ 30)
    .invalidModel
  let scheduledAt ← validScheduledAt now request.scheduledAt
  let row := request.toRow organizationId createdBy scheduledAt
  let campaignId ← saveCampaign row
  let audiences ← whereGiven (saveAudiences campaignId) request.audiences
  let variants ← makeVariants campaignId request.drafts
  let triggers ← whereGiven (saveTriggers campaignId) (request.triggers.map (·.asNew))
  return { row.toCampaign campaignId with audiences, variants, triggers }

/-- `get_campaign`. An empty organization is none. -/
def getCampaign (campaignId : ℕ) (organizationId : Option PyStr) : CampaignM Campaign := do
  match ← selectCampaign campaignId (given organizationId) with
  | none => .raise (.notFound campaignId)
  | some campaign => return campaign

def CampaignUpdateRequest.updates (request : CampaignUpdateRequest) (campaign : Campaign)
    (updatedBy : PyStr) : CampaignUpdates :=
  { name := request.name.filter (· ≠ campaign.name)
    description := request.description
    scheduledAt := request.scheduledAt.map (·.instant)
    cronExpression := request.cronExpression
    timezone := request.timezone
    tags := request.tags
    metadata := request.metadata
    throttle := request.throttle
    updatedBy := some (some updatedBy) }

def updateCampaign (campaignId : ℕ) (request : CampaignUpdateRequest) (updatedBy : PyStr)
    (organizationId : Option PyStr) : CampaignM (Option Campaign) := do
  let campaign ← getCampaign campaignId organizationId
  -- Scheduled and active campaigns pass.
  require (campaign.status ≠ .running ∧ campaign.status ≠ .completed ∧
    campaign.status ≠ .cancelled) (.invalidState campaign.status)
  let updates := request.updates campaign updatedBy
  require (∀ name ∈ updates.name, NameFits name) (.validation "name")
  let edited ← updateColumns campaignId updates
  match request.audiences with
  | none => return edited
  | some audiences => do
    require (audiences.length ≤ maxSegments) (.validation "audiences")
    let audiences ← saveAudiences campaignId audiences
    match edited with
    | none => .raise .attributeError
    | some campaign => return some { campaign with audiences }

def deleteCampaign (now : Timestamp) (campaignId : ℕ) (organizationId : Option PyStr) :
    CampaignM Bool := do
  let campaign ← getCampaign campaignId organizationId
  require (campaign.status ≠ .running) (.invalidState campaign.status)
  ask (.deleteCampaign campaignId now)

/-! ### Lifecycle -/

/-- `schedule_campaign`. `task` is the task that the task service has made, if it has made one. -/
def scheduleCampaign (now : Timestamp) (campaignId : ℕ) (scheduledAt : Option DateTime)
    (tzName : PyStr) (organizationId scheduledBy task : Option PyStr) :
    CampaignM (Option Campaign) := do
  let campaign ← getCampaign campaignId organizationId
  require (campaign.campaignType = .scheduled) (.invalidType campaign.campaignType)
  require (campaign.status = .draft) (.invalidState campaign.status)
  require (campaign.audiences ≠ []) (.validation "audiences")
  require (campaign.variants ≠ []) (.validation "channels")
  match scheduledAt.or (campaign.scheduledAt.map ({ instant := · })) with
  | none => .raise (.validation "scheduled_at")
  | some time => do
    require (time.aware = true) .typeError
    require (now + minSchedule ≤ time.instant) (.validation "scheduled_at")
    updateColumns campaignId
      { status := some .scheduled
        scheduledAt := some time.instant
        timezone := some tzName
        scheduleType := some (campaign.scheduleType.getD .oneTime)
        taskId := some task
        updatedBy := (given scheduledBy).map some }

def activateCampaign (campaignId : ℕ) (organizationId activatedBy : Option PyStr) :
    CampaignM (Option Campaign) := do
  let campaign ← getCampaign campaignId organizationId
  require (campaign.campaignType = .triggered) (.invalidType campaign.campaignType)
  require (campaign.status = .draft) (.invalidState campaign.status)
  require (campaign.triggers ≠ []) (.validation "triggers")
  require (∀ trigger ∈ campaign.triggers, trigger.eventType ≠ []) (.validation "triggers")
  let activated ← updateColumns campaignId
    { status := some .active, updatedBy := (given activatedBy).map some }
  require (activated.isSome = true) .attributeError
  return activated

def markLatest (campaignId : ℕ) (status : ExecutionStatus) (pausedAt : Option Timestamp) :
    CampaignM Unit := do
  match ← latestExecution campaignId with
  | none => return ()
  | some execution => do
    let _ ← updateExecutionStatus execution.id status pausedAt
    return ()

def pauseCampaign (now : Timestamp) (campaignId : ℕ) (organizationId pausedBy : Option PyStr) :
    CampaignM (Option Campaign) := do
  let campaign ← getCampaign campaignId organizationId
  require (campaign.status = .running ∨ campaign.status = .active)
    (.invalidState campaign.status)
  let paused ← updateColumns campaignId
    { status := some .paused, pausedAt := some now, pausedBy := some pausedBy }
  markLatest campaignId .paused (some now)
  return paused

def targetStatus (campaign : Campaign) : CampaignM CampaignStatus :=
  if campaign.campaignType = .triggered then do
    match ← latestExecution campaign.campaignId with
    | none => return .active
    | some execution => return if execution.val.status = .paused then .running else .active
  else return .running

def resumeCampaign (campaignId : ℕ) (organizationId resumedBy : Option PyStr) :
    CampaignM (Option Campaign) := do
  let campaign ← getCampaign campaignId organizationId
  require (campaign.status = .paused) (.invalidState campaign.status)
  let status ← targetStatus campaign
  let resumed ← updateColumns campaignId { status := some status, updatedBy := some resumedBy }
  markLatest campaignId .running none
  return resumed

def cancelCampaign (now : Timestamp) (campaignId : ℕ) (reason organizationId cancelledBy :
    Option PyStr) : CampaignM (Option Campaign) := do
  let campaign ← getCampaign campaignId organizationId
  require (campaign.status ≠ .completed ∧ campaign.status ≠ .cancelled)
    (.invalidState campaign.status)
  markLatest campaignId .cancelled none
  updateColumns campaignId
    { status := some .cancelled, cancelledAt := some now, cancelledBy := some cancelledBy
      cancelledReason := some reason }

/-! ### Cloning -/

def Campaign.cloneRow (source : Campaign) (name createdBy : PyStr) : CampaignRow :=
  { organizationId := source.organizationId
    name
    description := source.description
    campaignType := source.campaignType
    scheduleType := source.scheduleType
    cronExpression := source.cronExpression
    timezone := source.timezone
    holdoutPercentage := source.holdoutPercentage
    tags := source.tags
    metadata := source.metadata
    createdBy
    updatedBy := some createdBy
    clonedFromId := some source.campaignId
    throttle := source.throttle
    abTest := source.abTest
    conversion := source.conversion }

def cloneVariants (campaignId : ℕ) : List CampaignVariant → CampaignM (List CampaignVariant)
  | [] => return []
  | variant :: rest => do
    require (∀ channel ∈ variant.channels, channel.HasContent) .invalidModel
    let made ← makeVariant campaignId variant.toVariantDraft
    let variants ← cloneVariants campaignId rest
    return made :: variants

def cloneCampaign (campaignId : ℕ) (newName organizationId clonedBy : Option PyStr) :
    CampaignM Campaign := do
  let source ← getCampaign campaignId organizationId
  let cloneName := (given newName).getD ("Copy of ".toList ++ source.name)
  require (NameFits cloneName) (.validation "name")
  match clonedBy with
  | none => .raise .invalidModel
  | some createdBy => do
    let row := source.cloneRow cloneName createdBy
    let newCampaignId ← saveCampaign row
    let audiences ← whereGiven (saveAudiences newCampaignId) source.audiences
    let variants ← cloneVariants newCampaignId source.variants
    let triggers ← whereGiven (saveTriggers newCampaignId) source.triggers
    return { row.toCampaign newCampaignId with audiences, variants, triggers }

/-! ### Variants -/

def addVariant (campaignId : ℕ) (variant : VariantDraft) (organizationId : Option PyStr) :
    CampaignM CampaignVariant := do
  let campaign ← getCampaign campaignId organizationId
  require (campaign.variants.length < maxVariants) .tooManyVariants
  require (variant.isControl = true → ∀ v ∈ campaign.variants, v.isControl = false)
    .twoControls
  makeVariant campaignId variant

/-- The updates of `update_variant_allocations`, one after the other: those that hit a variant. -/
def updateVariants (campaignId : ℕ) : List (ℕ × ℚ) → CampaignM (List CampaignVariant)
  | [] => return []
  | (variantId, allocation) :: rest => do
    let variant ← updateVariant campaignId variantId (float allocation)
    let variants ← updateVariants campaignId rest
    return variant.toList ++ variants

structure Allocations where
  entries : List (ℕ × ℚ)
  unique : (entries.map Prod.fst).Nodup

def updateVariantAllocations (campaignId : ℕ) (allocations : Allocations)
    (organizationId : Option PyStr) : CampaignM (List CampaignVariant) := do
  let _ ← getCampaign campaignId organizationId
  require (¬OffHundred (allocations.entries.map Prod.snd).sum) .allocationSum
  updateVariants campaignId allocations.entries

end IsaUser.Campaigns
