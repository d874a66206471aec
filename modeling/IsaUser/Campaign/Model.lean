import IsaUser.Lib.Faults
import IsaUser.Lib.Json
import IsaUser.Lib.Table

/-!
# Campaigns and Their Store

A campaign is a row with audiences, variants and triggers in tables of their own; a variant has
channels, and a campaign that runs has executions. Every statement of `campaign_repository.py`
works on one table, and each may fail: the connection breaks, or the database refuses a value.

Campaigns, variants and executions are numbered as they are inserted, which is what the ids drawn
for them come to. The id of a channel comes with the request, and a channel that is there already
is overwritten, though not all of it.
-/

namespace IsaUser.Campaigns

/-! ### Enumerations -/

inductive CampaignType where
  | scheduled
  | triggered
  deriving DecidableEq, Repr

inductive CampaignStatus where
  | draft
  | scheduled
  | active
  | running
  | paused
  | completed
  | cancelled
  deriving DecidableEq, Repr

inductive ScheduleType where
  | oneTime
  | recurring
  deriving DecidableEq, Repr

inductive ChannelType where
  | email
  | sms
  | whatsapp
  | inApp
  | webhook
  deriving DecidableEq, Repr

inductive SegmentType where
  | included
  | excluded
  deriving DecidableEq, Repr

inductive TriggerOperator where
  | equals
  | notEquals
  | contains
  | notContains
  | greaterThan
  | lessThan
  | greaterThanOrEqual
  | lessThanOrEqual
  | isIn
  | notIn
  | exists
  | notExists
  deriving DecidableEq, Repr

inductive ExecutionStatus where
  | pending
  | running
  | paused
  | completed
  | failed
  | cancelled
  deriving DecidableEq, Repr

/-! ### Campaigns -/

structure ThrottleConfig where
  perMinute : Option ℕ := none
  perHour : Option ℕ := none
  sendWindowStart : Option ℕ := none
  sendWindowEnd : Option ℕ := none
  excludeWeekends : Bool := false
  deriving DecidableEq

/-- The fields of `ABTestConfig` that a method sets. -/
structure ABTestConfig where
  enabled : Bool := false
  deriving DecidableEq

/-- The fields of `ConversionConfig` that a method sets. -/
structure ConversionConfig where
  conversionEventType : Option PyStr := none
  attributionWindowDays : ℤ := 7
  deriving DecidableEq

/-- A row of `campaign.campaigns`. -/
structure CampaignRow where
  organizationId : PyStr
  name : PyStr
  description : Option PyStr := none
  campaignType : CampaignType
  status : CampaignStatus := .draft
  scheduleType : Option ScheduleType := none
  scheduledAt : Option Timestamp := none
  cronExpression : Option PyStr := none
  timezone : PyStr
  holdoutPercentage : ℚ := 0
  taskId : Option PyStr := none
  tags : List PyStr := []
  metadata : JsonDict := []
  throttle : ThrottleConfig := {}
  abTest : ABTestConfig := {}
  conversion : ConversionConfig := {}
  createdBy : PyStr
  updatedBy : Option PyStr := none
  pausedAt : Option Timestamp := none
  pausedBy : Option PyStr := none
  cancelledAt : Option Timestamp := none
  cancelledBy : Option PyStr := none
  cancelledReason : Option PyStr := none
  clonedFromId : Option ℕ := none
  deletedAt : Option Timestamp := none

structure CampaignUpdates where
  name : Option PyStr := none
  description : Option PyStr := none
  scheduledAt : Option Timestamp := none
  cronExpression : Option PyStr := none
  timezone : Option PyStr := none
  tags : Option (List PyStr) := none
  metadata : Option JsonDict := none
  throttle : Option ThrottleConfig := none
  status : Option CampaignStatus := none
  scheduleType : Option ScheduleType := none
  taskId : Option (Option PyStr) := none
  updatedBy : Option (Option PyStr) := none
  pausedAt : Option Timestamp := none
  pausedBy : Option (Option PyStr) := none
  cancelledAt : Option Timestamp := none
  cancelledBy : Option (Option PyStr) := none
  cancelledReason : Option (Option PyStr) := none

def CampaignUpdates.apply (updates : CampaignUpdates) (row : CampaignRow) : CampaignRow :=
  { row with
    name := updates.name.getD row.name
    description := updates.description.or row.description
    scheduledAt := updates.scheduledAt.or row.scheduledAt
    cronExpression := updates.cronExpression.or row.cronExpression
    timezone := updates.timezone.getD row.timezone
    tags := updates.tags.getD row.tags
    metadata := updates.metadata.getD row.metadata
    throttle := updates.throttle.getD row.throttle
    status := updates.status.getD row.status
    scheduleType := updates.scheduleType.or row.scheduleType
    taskId := updates.taskId.getD row.taskId
    updatedBy := updates.updatedBy.getD row.updatedBy
    pausedAt := updates.pausedAt.or row.pausedAt
    pausedBy := updates.pausedBy.getD row.pausedBy
    cancelledAt := updates.cancelledAt.or row.cancelledAt
    cancelledBy := updates.cancelledBy.getD row.cancelledBy
    cancelledReason := updates.cancelledReason.getD row.cancelledReason }

/-! ### Audiences and triggers -/

/-- `CampaignAudience` without its id. -/
structure CampaignAudience where
  segmentType : SegmentType
  segmentId : Option PyStr
  segmentQuery : Option JsonDict
  name : Option PyStr
  estimatedSize : Option ℕ := none

/-- A row of `campaign.campaign_audiences`. An empty query is stored as none. -/
structure AudienceRow extends CampaignAudience where
  campaignId : ℕ
  stored : segmentQuery ≠ some []

def CampaignAudience.toRow (campaignId : ℕ) (audience : CampaignAudience) : AudienceRow :=
  { audience with
    campaignId
    segmentQuery := audience.segmentQuery.filter (!·.isEmpty)
    stored := by
      intro h
      simpa using (Option.filter_eq_some_iff.mp h).2 }

structure TriggerCondition where
  field : PyStr
  operator : TriggerOperator
  value : Json

/-- `CampaignTrigger` without its id. -/
structure CampaignTrigger where
  eventType : PyStr
  conditions : List TriggerCondition := []
  delayMinutes : ℕ := 0
  delayDays : ℕ := 0
  frequencyLimit : ℕ := 1
  frequencyWindowHours : ℕ := 24
  quietHoursStart : Option ℕ := none
  quietHoursEnd : Option ℕ := none
  quietHoursTimezone : PyStr
  enabled : Bool := true

/-- A row of `campaign.campaign_triggers`. -/
structure TriggerRow extends CampaignTrigger where
  campaignId : ℕ

/-! ### Channels -/

structure EmailChannelContent where
  subject : PyStr
  bodyHtml : Option PyStr := none
  bodyText : Option PyStr := none
  senderName : Option PyStr := none
  senderEmail : Option PyStr := none
  replyTo : Option PyStr := none
  deriving DecidableEq

structure SMSChannelContent where
  body : PyStr
  deriving DecidableEq

structure WhatsAppChannelContent where
  body : PyStr
  templateId : Option PyStr := none
  deriving DecidableEq

structure InAppChannelContent where
  title : PyStr
  body : PyStr
  actionUrl : Option PyStr := none
  icon : Option PyStr := none
  deriving DecidableEq

structure WebhookChannelContent where
  url : PyStr
  method : PyStr
  headers : List (PyStr × PyStr) := []
  payloadTemplate : Option PyStr := none
  deriving DecidableEq

/-- `CampaignChannel` without its id. -/
structure ChannelContent where
  channelType : ChannelType
  enabled : Bool := true
  priority : ℤ := 0
  templateId : Option PyStr := none
  emailContent : Option EmailChannelContent := none
  smsContent : Option SMSChannelContent := none
  whatsappContent : Option WhatsAppChannelContent := none
  inAppContent : Option InAppChannelContent := none
  webhookContent : Option WebhookChannelContent := none
  deriving DecidableEq

structure CampaignChannel extends ChannelContent where
  channelId : ℕ
  deriving DecidableEq

/-- A row of `campaign.campaign_channels`. -/
structure ChannelRow where
  channelId : ℕ
  campaignId : ℕ
  variantId : ℕ
  channelType : ChannelType
  enabled : Bool
  priority : ℤ
  templateId : Option PyStr
  emailSubject : Option PyStr
  emailBodyHtml : Option PyStr
  emailBodyText : Option PyStr
  emailSenderName : Option PyStr
  emailSenderEmail : Option PyStr
  emailReplyTo : Option PyStr
  smsBody : Option PyStr
  whatsappBody : Option PyStr
  whatsappTemplateId : Option PyStr
  inAppTitle : Option PyStr
  inAppBody : Option PyStr
  inAppActionUrl : Option PyStr
  inAppIcon : Option PyStr
  webhookUrl : Option PyStr
  webhookMethod : Option PyStr
  webhookHeaders : Option (List (PyStr × PyStr))
  webhookPayloadTemplate : Option PyStr
  deriving DecidableEq

def CampaignChannel.toRow (campaignId variantId : ℕ) (channel : CampaignChannel) : ChannelRow :=
  { channelId := channel.channelId
    campaignId
    variantId
    channelType := channel.channelType
    enabled := channel.enabled
    priority := channel.priority
    templateId := channel.templateId
    emailSubject := channel.emailContent.map (·.subject)
    emailBodyHtml := channel.emailContent.bind (·.bodyHtml)
    emailBodyText := channel.emailContent.bind (·.bodyText)
    emailSenderName := channel.emailContent.bind (·.senderName)
    emailSenderEmail := channel.emailContent.bind (·.senderEmail)
    emailReplyTo := channel.emailContent.bind (·.replyTo)
    smsBody := channel.smsContent.map (·.body)
    whatsappBody := channel.whatsappContent.map (·.body)
    whatsappTemplateId := channel.whatsappContent.bind (·.templateId)
    inAppTitle := channel.inAppContent.map (·.title)
    inAppBody := channel.inAppContent.map (·.body)
    inAppActionUrl := channel.inAppContent.bind (·.actionUrl)
    inAppIcon := channel.inAppContent.bind (·.icon)
    webhookUrl := channel.webhookContent.map (·.url)
    webhookMethod := channel.webhookContent.map (·.method)
    webhookHeaders := (channel.webhookContent.map (·.headers)).filter (!·.isEmpty)
    webhookPayloadTemplate := channel.webhookContent.bind (·.payloadTemplate) }

/-- `DO UPDATE` of a channel that is there: the columns that it sets. -/
def ChannelRow.overwrite (row new : ChannelRow) : ChannelRow :=
  { row with
    enabled := new.enabled
    priority := new.priority
    templateId := new.templateId
    emailSubject := new.emailSubject
    emailBodyHtml := new.emailBodyHtml
    emailBodyText := new.emailBodyText }

/-- A content that is read where one of its columns is set, and the conversion of it, which
raises where a text that it needs is missing. -/
def readContent {α : Type} (present : Bool) (content : Option α) : Option (Option α) :=
  if present then content.map some else some none

/-- `_row_to_channel`, which raises where a content lacks a text that it needs, or its headers. -/
def ChannelRow.toChannel (row : ChannelRow) : Option CampaignChannel := do
  let emailContent ← readContent
    ((given row.emailSubject).isSome || (given row.emailBodyHtml).isSome)
    do
      let subject ← given row.emailSubject
      return { subject, bodyHtml := row.emailBodyHtml, bodyText := row.emailBodyText
               senderName := row.emailSenderName, senderEmail := row.emailSenderEmail
               replyTo := row.emailReplyTo : EmailChannelContent }
  let smsContent ← readContent (given row.smsBody).isSome do
    let body ← given row.smsBody
    return { body : SMSChannelContent }
  let whatsappContent ← readContent
    ((given row.whatsappBody).isSome || (given row.whatsappTemplateId).isSome) do
      let body ← given row.whatsappBody
      return { body, templateId := row.whatsappTemplateId : WhatsAppChannelContent }
  let inAppContent ← readContent ((given row.inAppTitle).isSome || (given row.inAppBody).isSome) do
    let title ← given row.inAppTitle
    let body ← given row.inAppBody
    return { title, body, actionUrl := row.inAppActionUrl, icon := row.inAppIcon
             : InAppChannelContent }
  let webhookContent ← readContent (given row.webhookUrl).isSome do
    let url ← given row.webhookUrl
    let method ← row.webhookMethod
    let headers ← row.webhookHeaders
    return { url, method, headers, payloadTemplate := row.webhookPayloadTemplate
             : WebhookChannelContent }
  return { channelId := row.channelId, channelType := row.channelType, enabled := row.enabled
           priority := row.priority, templateId := row.templateId
           emailContent, smsContent, whatsappContent, inAppContent, webhookContent }

/-- `validate_content`: there is content for the type of the channel, or a template. -/
def CampaignChannel.HasContent (channel : CampaignChannel) : Prop :=
  (given channel.templateId).isSome ∨
    match channel.channelType with
    | .email => channel.emailContent.isSome
    | .sms => channel.smsContent.isSome
    | .whatsapp => channel.whatsappContent.isSome
    | .inApp => channel.inAppContent.isSome
    | .webhook => channel.webhookContent.isSome

instance : DecidablePred CampaignChannel.HasContent := fun channel => by
  unfold CampaignChannel.HasContent
  cases channel.channelType <;> exact inferInstance

/-! ### Variants -/

/-- `CampaignVariant` without its id. -/
structure VariantDraft where
  name : PyStr
  description : Option PyStr := none
  allocationPercentage : ℚ
  isControl : Bool := false
  channels : List CampaignChannel := []

structure CampaignVariant extends VariantDraft where
  variantId : ℕ

/-- A row of `campaign.campaign_variants`. -/
structure VariantRow where
  campaignId : ℕ
  name : PyStr
  description : Option PyStr
  allocationPercentage : ℚ
  isControl : Bool
  deriving DecidableEq

def VariantDraft.toRow (campaignId : ℕ) (allocationPercentage : ℚ) (variant : VariantDraft) :
    VariantRow :=
  { campaignId
    name := variant.name
    description := variant.description
    allocationPercentage
    isControl := variant.isControl }

/-- `_row_to_variant`, with the channels. -/
def VariantRow.toVariant (variantId : ℕ) (channels : List CampaignChannel) (row : VariantRow) :
    CampaignVariant :=
  { variantId
    name := row.name
    description := row.description
    allocationPercentage := row.allocationPercentage
    isControl := row.isControl
    channels }

/-- What `DECIMAL(5,2)` makes of a number: two decimals, the half away from zero. -/
def decimal52 (x : ℚ) : ℚ :=
  if 0 ≤ x then ⌊x * 100 + 1 / 2⌋ / 100 else -(⌊-x * 100 + 1 / 2⌋ / 100)

/-- The number that the column takes, if it takes one: `valid_allocation`. -/
def allocationColumn (x : Option ℚ) : Option ℚ :=
  (x.map decimal52).filter fun a => 0 ≤ a ∧ a ≤ 100

/-! ### Executions and campaigns that are read -/

/-- A row of `campaign.campaign_executions`. -/
structure ExecutionRow where
  campaignId : ℕ
  status : ExecutionStatus := .pending
  totalAudienceSize : ℕ := 0
  messagesSent : ℕ := 0
  pausedAt : Option Timestamp := none
  createdAt : Timestamp
  deriving DecidableEq

structure Campaign extends CampaignRow where
  campaignId : ℕ
  audiences : List CampaignAudience := []
  variants : List CampaignVariant := []
  triggers : List CampaignTrigger := []

def CampaignRow.readScheduleType (row : CampaignRow) : Option ScheduleType :=
  row.scheduleType.or <|
    if row.campaignType = .scheduled ∧
        row.status ∈ [CampaignStatus.scheduled, .running, .paused, .completed] then some .oneTime
    else none

/-- `_row_to_campaign`. -/
def CampaignRow.toCampaign (campaignId : ℕ) (row : CampaignRow) : Campaign :=
  { row with campaignId, scheduleType := row.readScheduleType }

/-! ### The store -/

structure Store where
  campaigns : Table CampaignRow
  audiences : List AudienceRow
  variants : Table VariantRow
  channels : List ChannelRow
  triggers : List TriggerRow
  executions : Table ExecutionRow

def Store.empty : Store := ⟨.empty, [], .empty, [], [], .empty⟩

inductive StorageError where
  | unavailable
  | checkViolation
  | foreignKeyViolation
  deriving DecidableEq, Repr

inductive Call where
  | insertCampaign (row : CampaignRow)
  | selectCampaign (campaignId : ℕ) (organizationId : Option PyStr)
  | updateCampaign (campaignId : ℕ) (updates : CampaignUpdates)
  | deleteCampaign (campaignId : ℕ) (now : Timestamp)
  | deleteAudiences (campaignId : ℕ)
  | insertAudience (row : AudienceRow)
  | selectAudiences (campaignId : ℕ)
  | insertVariant (campaignId : ℕ) (variant : VariantDraft) (allocation : Option ℚ)
  | updateVariant (campaignId variantId : ℕ) (allocation : Option ℚ)
  | selectVariants (campaignId : ℕ)
  | insertChannel (row : ChannelRow)
  | selectChannels (campaignId variantId : ℕ)
  | deleteTriggers (campaignId : ℕ)
  | insertTrigger (row : TriggerRow)
  | selectTriggers (campaignId : ℕ)
  | countExecutions (campaignId : ℕ)
  | selectExecutions (campaignId : ℕ)
  | updateExecution (executionId : ℕ) (status : ExecutionStatus) (pausedAt : Option Timestamp)

def Call.Reply : Call → Type
  | insertCampaign _ => ℕ
  | selectCampaign _ _ => Option CampaignRow
  | updateCampaign _ _ => Option CampaignRow
  | deleteCampaign _ _ => Bool
  | deleteAudiences _ => Unit
  | insertAudience _ => Unit
  | selectAudiences _ => List AudienceRow
  | insertVariant _ _ _ => ℕ
  | updateVariant _ _ _ => Option VariantRow
  | selectVariants _ => List (Row VariantRow)
  | insertChannel _ => Unit
  | selectChannels _ _ => List ChannelRow
  | deleteTriggers _ => Unit
  | insertTrigger _ => Unit
  | selectTriggers _ => List TriggerRow
  | countExecutions _ => ℕ
  | selectExecutions _ => Option (Row ExecutionRow)
  | updateExecution _ _ _ => Option ExecutionRow

@[reducible] def CampaignApi : Interface := ⟨Call, Call.Reply⟩

def Store.selectCampaign (s : Store) (campaignId : ℕ) (organizationId : Option PyStr) :
    Option CampaignRow :=
  (s.campaigns.get? campaignId).filter fun row => ∀ org ∈ organizationId, row.organizationId = org

def updated {ρ : Type} (t : Table ρ) (id : ℕ) (change : ρ → ρ) : Option ρ :=
  (t.modify id change).get? id

def CampaignRow.delete (now : Timestamp) (row : CampaignRow) : CampaignRow :=
  { row with deletedAt := row.deletedAt.or (some now) }

def Store.Undeleted (s : Store) (campaignId : ℕ) : Prop :=
  ∃ row ∈ s.campaigns.get? campaignId, row.deletedAt = none
  deriving Decidable

def Store.upsertChannel (s : Store) (row : ChannelRow) : Store :=
  { s with channels :=
      if ∃ old ∈ s.channels, old.channelId = row.channelId then
        s.channels.map fun old =>
          if old.channelId = row.channelId then old.overwrite row else old
      else s.channels ++ [row] }

def Store.channelsOf (s : Store) (campaignId variantId : ℕ) : List ChannelRow :=
  orderBy (·.priority) <| s.channels.filter fun row =>
    row.campaignId = campaignId ∧ row.variantId = variantId

def Store.latestExecution (s : Store) (campaignId : ℕ) : Option (Row ExecutionRow) :=
  (orderBy (fun e => -e.val.createdAt)
    (s.executions.select (·.campaignId = campaignId))).head?

def ExecutionRow.withStatus (status : ExecutionStatus) (pausedAt : Option Timestamp)
    (row : ExecutionRow) : ExecutionRow :=
  { row with status, pausedAt := pausedAt.or row.pausedAt }

def Store.referring {ρ : Type} (s : Store) (campaignId : ℕ) (reply : ρ) (inserted : Store) :
    Except StorageError ρ × Store :=
  if campaignId < s.campaigns.size then (.ok reply, inserted) else (.error .foreignKeyViolation, s)

def execute : Handler (CampaignApi.fallible StorageError) Store
  | .insertCampaign row, s =>
    (.ok s.campaigns.size, { s with campaigns := s.campaigns.insert row })
  | .selectCampaign id org, s => (.ok (s.selectCampaign id org), s)
  | .updateCampaign id updates, s =>
    (.ok (updated s.campaigns id updates.apply),
      { s with campaigns := s.campaigns.modify id updates.apply })
  | .deleteCampaign id now, s =>
    (.ok (decide (s.Undeleted id)),
      { s with campaigns := s.campaigns.modify id (·.delete now) })
  | .deleteAudiences id, s =>
    (.ok (), { s with audiences := s.audiences.filter (·.campaignId ≠ id) })
  | .insertAudience row, s =>
    s.referring row.campaignId () { s with audiences := s.audiences ++ [row] }
  | .selectAudiences id, s => (.ok (s.audiences.filter (·.campaignId = id)), s)
  | .insertVariant id variant allocation, s =>
    match allocationColumn allocation with
    | none => (.error .checkViolation, s)
    | some allocationPercentage =>
      s.referring id s.variants.size
        { s with variants := s.variants.insert (variant.toRow id allocationPercentage) }
  | .updateVariant id variantId allocation, s =>
    let change (row : VariantRow) (allocationPercentage : ℚ) : VariantRow :=
      if row.campaignId = id then { row with allocationPercentage } else row
    match allocationColumn allocation with
    | none =>
      if ∃ row ∈ s.variants.get? variantId, row.campaignId = id then
        (.error .checkViolation, s)
      else (.ok none, s)
    | some allocationPercentage =>
      (.ok ((updated s.variants variantId (change · allocationPercentage)).filter
          (·.campaignId = id)),
        { s with variants := s.variants.modify variantId (change · allocationPercentage) })
  | .selectVariants id, s => (.ok (s.variants.select (·.campaignId = id)), s)
  | .insertChannel row, s =>
    if row.variantId < s.variants.size then s.referring row.campaignId () (s.upsertChannel row)
    else (.error .foreignKeyViolation, s)
  | .selectChannels id variantId, s => (.ok (s.channelsOf id variantId), s)
  | .deleteTriggers id, s =>
    (.ok (), { s with triggers := s.triggers.filter (·.campaignId ≠ id) })
  | .insertTrigger row, s =>
    s.referring row.campaignId () { s with triggers := s.triggers ++ [row] }
  | .selectTriggers id, s => (.ok (s.triggers.filter (·.campaignId = id)), s)
  | .countExecutions id, s => (.ok (s.executions.select (·.campaignId = id)).length, s)
  | .selectExecutions id, s => (.ok (s.latestExecution id), s)
  | .updateExecution id status pausedAt, s =>
    (.ok (updated s.executions id (·.withStatus status pausedAt)),
      { s with executions := s.executions.modify id (·.withStatus status pausedAt) })

abbrev Moment := Store × Link

def handle : Handler (CampaignApi.fallible StorageError) Moment := throughLink .unavailable execute

/-! ### The repository -/

inductive CampaignError where
  /-- "Campaign not found: ...". -/
  | notFound (campaignId : ℕ)
  /-- `InvalidCampaignStateError`, with the status. -/
  | invalidState (current : CampaignStatus)
  /-- `InvalidCampaignTypeError`, with the type. -/
  | invalidType (campaignType : CampaignType)
  /-- `CampaignValidationError`, with the field. -/
  | validation (field : String)
  /-- "Maximum 5 variants per campaign". -/
  | tooManyVariants
  /-- "Variant allocations must sum to 100%". -/
  | allocationSum
  /-- "Only one control variant allowed". -/
  | twoControls
  /-- `ValidationError` of a model. -/
  | invalidModel
  /-- A comparison of an instant that has no zone. -/
  | typeError
  /-- A field of `None`. -/
  | attributeError
  | storage (e : StorageError)
  deriving DecidableEq, Repr

abbrev CampaignM := Prog (CampaignApi.fallible StorageError) CampaignError

def ask (c : Call) : CampaignM c.Reply := Prog.query (I := CampaignApi) .storage c

def orEmpty {α : Type} (p : CampaignM (List α)) : CampaignM (List α) :=
  p.tryCatch fun _ => return []

def converted {α : Type} : Option α → CampaignM α
  | none => .raise .invalidModel
  | some a => return a

def getAudiences (campaignId : ℕ) : CampaignM (List CampaignAudience) :=
  orEmpty do
    let rows : List AudienceRow ← ask (.selectAudiences campaignId)
    return rows.map (·.toCampaignAudience)

def getVariantChannels (campaignId variantId : ℕ) : CampaignM (List CampaignChannel) :=
  orEmpty do
    let rows : List ChannelRow ← ask (.selectChannels campaignId variantId)
    converted (rows.mapM ChannelRow.toChannel)

/-- The variants of `get_variants`, one after the other. -/
def loadVariants (campaignId : ℕ) : List (Row VariantRow) → CampaignM (List CampaignVariant)
  | [] => return []
  | row :: rows => do
    let channels ← getVariantChannels campaignId row.id
    let variants ← loadVariants campaignId rows
    return row.val.toVariant row.id channels :: variants

def getVariants (campaignId : ℕ) : CampaignM (List CampaignVariant) :=
  orEmpty do
    let rows : List (Row VariantRow) ← ask (.selectVariants campaignId)
    loadVariants campaignId rows

def getTriggers (campaignId : ℕ) : CampaignM (List CampaignTrigger) :=
  orEmpty do
    let rows : List TriggerRow ← ask (.selectTriggers campaignId)
    return rows.map (·.toCampaignTrigger)

def loaded (campaignId : ℕ) : Option CampaignRow → CampaignM (Option Campaign)
  | none => return none
  | some row => do
    let audiences ← getAudiences campaignId
    let variants ← getVariants campaignId
    let triggers ← getTriggers campaignId
    return some { row.toCampaign campaignId with audiences, variants, triggers }

/-- `get_campaign` and `get_campaign_by_org`. -/
def selectCampaign (campaignId : ℕ) (organizationId : Option PyStr) :
    CampaignM (Option Campaign) := do
  let row ← ask (.selectCampaign campaignId organizationId)
  loaded campaignId row

/-- `save_campaign`, of a new one: its id. -/
def saveCampaign (row : CampaignRow) : CampaignM ℕ := ask (.insertCampaign row)

/-- `update_campaign` of the repository. -/
def updateColumns (campaignId : ℕ) (updates : CampaignUpdates) : CampaignM (Option Campaign) := do
  let row ← ask (.updateCampaign campaignId updates)
  loaded campaignId row

def each {α : Type} (statement : α → CampaignM Unit) : List α → CampaignM Unit
  | [] => return ()
  | a :: rest => do
    statement a
    each statement rest

def saveAudiences (campaignId : ℕ) (audiences : List CampaignAudience) :
    CampaignM (List CampaignAudience) := do
  let _ : Unit ← ask (.deleteAudiences campaignId)
  each (fun audience => ask (.insertAudience (audience.toRow campaignId))) audiences
  return audiences

/-- `save_variant`, of a new one. -/
def saveVariant (campaignId : ℕ) (variant : VariantDraft) : CampaignM CampaignVariant := do
  let variantId : ℕ ←
    ask (.insertVariant campaignId variant (float variant.allocationPercentage))
  each (fun channel => ask (.insertChannel (channel.toRow campaignId variantId))) variant.channels
  return { variant with variantId }

/-- `update_variant` of an allocation. -/
def updateVariant (campaignId variantId : ℕ) (allocation : Option ℚ) :
    CampaignM (Option CampaignVariant) := do
  let row : Option VariantRow ← ask (.updateVariant campaignId variantId allocation)
  return row.map (·.toVariant variantId [])

def saveTriggers (campaignId : ℕ) (triggers : List CampaignTrigger) :
    CampaignM (List CampaignTrigger) := do
  let _ : Unit ← ask (.deleteTriggers campaignId)
  each (fun trigger => ask (.insertTrigger { toCampaignTrigger := trigger, campaignId })) triggers
  return triggers

/-- `list_executions` with a limit of one. -/
def latestExecution (campaignId : ℕ) : CampaignM (Option (Row ExecutionRow)) := do
  let _ : ℕ ← ask (.countExecutions campaignId)
  ask (.selectExecutions campaignId)

def updateExecutionStatus (executionId : ℕ) (status : ExecutionStatus)
    (pausedAt : Option Timestamp) : CampaignM (Option ExecutionRow) :=
  ask (.updateExecution executionId status pausedAt)

end IsaUser.Campaigns
