import IsaUser.Campaign.Statements
import IsaUser.Lib.LastWrite

/-!
# Outcomes of Messages

`notification.delivered`, `notification.opened` and `notification.clicked` each write over the
status of a message, and `calculate_variant_statistics` counts the messages of a variant by their
status, of the newest 100000 of the campaign. So what it returns may depend on which event came
last.
-/

open List Option

namespace IsaUser.Campaigns

/-! ### Messages -/

inductive MessageStatus where
  | queued
  | sent
  | delivered
  | opened
  | clicked
  | bounced
  | failed
  | unsubscribed
  deriving DecidableEq, Repr

/-- A row of `campaign.campaign_messages`. -/
structure CampaignMessage where
  messageId : PyStr
  campaignId : ℕ
  variantId : Option ℕ
  status : MessageStatus
  providerMessageId : Option PyStr := none
  queuedAt : Timestamp
  deliveredAt : Option Timestamp := none
  openedAt : Option Timestamp := none
  clickedAt : Option Timestamp := none
  deriving DecidableEq

structure Messages where
  rows : List CampaignMessage
  unique : (rows.map (·.messageId)).Nodup

/-- The columns that an update of a status sets besides. -/
structure MessageUpdates where
  deliveredAt : Option Timestamp := none
  providerMessageId : Option (Option PyStr) := none
  openedAt : Option Timestamp := none
  clickedAt : Option Timestamp := none

def MessageUpdates.apply (updates : MessageUpdates) (status : MessageStatus)
    (row : CampaignMessage) : CampaignMessage :=
  { row with
    status
    providerMessageId := updates.providerMessageId.getD row.providerMessageId
    deliveredAt := updates.deliveredAt.or row.deliveredAt
    openedAt := updates.openedAt.or row.openedAt
    clickedAt := updates.clickedAt.or row.clickedAt }

/-- What a column `VARCHAR(n)` takes of a text: blanks that are too many are cut off. -/
def varchar (n : ℕ) (s : PyStr) : Option PyStr :=
  if Char.ofNat 0 ∉ s ∧ (s.drop n).all (· = ' ') then some (s.take n) else none

def MessageUpdates.stored (updates : MessageUpdates) : Option MessageUpdates :=
  match updates.providerMessageId with
  | some (some s) =>
    (varchar 100 s).map fun s => { updates with providerMessageId := some (some s) }
  | _ => some updates

def Messages.modify (t : Messages) (messageId : PyStr) (status : MessageStatus)
    (updates : MessageUpdates) : Messages where
  rows := t.rows.map fun row =>
    if row.messageId = messageId then updates.apply status row else row
  unique := by
    have hids : ((fun row : CampaignMessage => row.messageId) ∘ fun row : CampaignMessage =>
        if row.messageId = messageId then updates.apply status row else row) =
        fun row => row.messageId := by
      funext row
      dsimp only [Function.comp]
      split <;> rfl
    rw [List.map_map, hids]
    exact t.unique

/-- `update_message_status`: the message, if there is one, or nothing at all if it raises. -/
def updateMessageStatus (messageId : PyStr) (status : MessageStatus) (updates : MessageUpdates)
    (t : Messages) : Option (Option CampaignMessage) × Messages :=
  match updates.stored with
  | none => (none, t)
  | some updates =>
    let t' := t.modify messageId status updates
    (some (t'.rows.find? (·.messageId = messageId)), t')

/-! ### Events -/

/-- `NotificationStatusEventData`, as far as it is used. -/
structure NotificationStatusEventData where
  messageId : Option PyStr := none
  providerMessageId : Option PyStr := none
  deriving DecidableEq

/-- A handler: what `update_message_status` raises is logged and dropped. -/
def handleNotification (status : MessageStatus) (updates : MessageUpdates)
    (data : NotificationStatusEventData) (t : Messages) : Messages :=
  match given data.messageId with
  | none => t
  | some messageId => (updateMessageStatus messageId status updates t).2

def handleNotificationDelivered (now : Timestamp) (data : NotificationStatusEventData) :
    Messages → Messages :=
  handleNotification .delivered
    { deliveredAt := some now, providerMessageId := some data.providerMessageId } data

def handleNotificationOpened (now : Timestamp) (data : NotificationStatusEventData) :
    Messages → Messages :=
  handleNotification .opened { openedAt := some now } data

def handleNotificationClicked (now : Timestamp) (data : NotificationStatusEventData) :
    Messages → Messages :=
  handleNotification .clicked { clickedAt := some now } data

inductive NotificationEvent where
  | delivered (data : NotificationStatusEventData)
  | opened (data : NotificationStatusEventData)
  | clicked (data : NotificationStatusEventData)
  deriving DecidableEq

def NotificationEvent.handle (now : Timestamp) : NotificationEvent → Messages → Messages
  | delivered data => handleNotificationDelivered now data
  | opened data => handleNotificationOpened now data
  | clicked data => handleNotificationClicked now data

def deliver (l : List (Timestamp × NotificationEvent)) (t : Messages) : Messages :=
  l.foldl (fun t d => d.2.handle d.1 t) t

/-! ### Statistics -/

/-- `list_messages` of a campaign, the newest first. -/
def listMessages (t : Messages) (campaignId limit : ℕ) : List CampaignMessage :=
  (orderBy (fun row => -row.queuedAt) (t.rows.filter (·.campaignId = campaignId))).take limit

def variantMessages (messages : List CampaignMessage) (variantId : ℕ) : List CampaignMessage :=
  messages.filter (·.variantId = some variantId)

def withStatus (statuses : List MessageStatus) (messages : List CampaignMessage) :
    List CampaignMessage :=
  messages.filter (·.status ∈ statuses)

def deliveredStatuses : List MessageStatus := [.delivered, .opened, .clicked]

def openedStatuses : List MessageStatus := [.opened, .clicked]

def clickedStatuses : List MessageStatus := [.clicked]

/-- The counts of `variant_data`. -/
structure VariantData where
  sent : ℕ
  delivered : ℕ
  opened : ℕ
  clicked : ℕ
  deriving DecidableEq

/-- The entry of `variant_data` for a variant. -/
def variantData (messages : List CampaignMessage) (variantId : ℕ) : VariantData :=
  let mine := variantMessages messages variantId
  { sent := mine.length
    delivered := (withStatus deliveredStatuses mine).length
    opened := (withStatus openedStatuses mine).length
    clicked := (withStatus clickedStatuses mine).length }

def rate (n delivered : ℕ) : ℚ :=
  if 0 < delivered then (throughDouble (n / delivered)).getD 0 else 0

structure VariantStatistics where
  variantId : ℕ
  variantName : PyStr
  sent : ℕ
  delivered : ℕ
  opened : ℕ
  clicked : ℕ
  openRate : ℚ
  clickRate : ℚ
  chiSquareStatistic : Option ℚ := none
  pValue : Option ℚ := none
  isSignificant : Bool := false

/-- What is compared, and how: `chi2_contingency` of the observations, which may raise, answers
with the statistic and the p-value. -/
structure Analysis where
  chi2Contingency : List (List ℤ) → Option (ℚ × ℚ)
  targetMetric : PyStr
  confidenceLevel : ℚ

def VariantData.statistics (data : VariantData) (variant : CampaignVariant) : VariantStatistics :=
  { variantId := variant.variantId
    variantName := variant.name
    sent := data.sent
    delivered := data.delivered
    opened := data.opened
    clicked := data.clicked
    openRate := rate data.opened data.delivered
    clickRate := rate data.clicked data.delivered }

def VariantData.observed (data : VariantData) (targetMetric : PyStr) : List ℤ :=
  if targetMetric = "click_rate".toList then [data.clicked, data.delivered - data.clicked]
  else [data.opened, data.delivered - data.opened]

def Analysis.compare (analysis : Analysis) (data control : VariantData)
    (variant : CampaignVariant) : VariantStatistics :=
  let observed := [data.observed analysis.targetMetric, control.observed analysis.targetMetric]
  match analysis.chi2Contingency observed with
  | none => data.statistics variant
  | some (chi2, p) =>
    { data.statistics variant with
      chiSquareStatistic := some (shortest chi2)
      pValue := some (shortest p)
      isSignificant := (float (1 - analysis.confidenceLevel)).any fun bound => p < bound }

def Analysis.results (analysis : Analysis) (messages : List CampaignMessage) :
    List CampaignVariant → List VariantStatistics
  | [] => []
  | first :: rest =>
    let control := variantData messages first.variantId
    control.statistics first :: rest.map fun variant =>
      analysis.compare (variantData messages variant.variantId) control variant

/-- `calculate_variant_statistics`, while the database answers. -/
def calculateVariantStatistics (analysis : Analysis) (s : Store) (t : Messages)
    (campaignId : ℕ) : Except CampaignError (List VariantStatistics) := do
  let campaign ← ((getCampaign campaignId none).run handle (s, .up)).1
  return analysis.results (listMessages t campaignId 100000) campaign.variants

/-! ### The law -/

def NotificationEvent.writes (row : CampaignMessage) : NotificationEvent → Option MessageStatus
  | delivered data =>
    if given data.messageId = some row.messageId ∧
        ∀ s ∈ data.providerMessageId, (varchar 100 s).isSome then some .delivered
    else none
  | opened data => if given data.messageId = some row.messageId then some .opened else none
  | clicked data => if given data.messageId = some row.messageId then some .clicked else none

structure Delivers (events : List NotificationEvent) (l : List (Timestamp × NotificationEvent)) :
    Prop where
  all : events.Subperm (l.map Prod.snd)
  only : l.map Prod.snd ⊆ events

def Store.readVariants (s : Store) (campaignId : ℕ) : List CampaignVariant :=
  match s.selectCampaign campaignId none with
  | none => []
  | some _ => s.variantsOf campaignId

def Counts (t : Messages) (campaignId variantId : ℕ) (statuses : List MessageStatus)
    (messageId : PyStr) : Prop :=
  messageId ∈ (withStatus statuses
    (variantMessages (listMessages t campaignId 100000) variantId)).map (·.messageId)

instance (t : Messages) (campaignId variantId : ℕ) (statuses : List MessageStatus) (id : PyStr) :
    Decidable (Counts t campaignId variantId statuses id) :=
  inferInstanceAs (Decidable (id ∈ List.map _ _))

/-- The statistics do not depend on the order and the number of the deliveries; what has been
clicked counts as clicked, opened and delivered, and what has been opened as opened and
delivered. -/
structure OrderFree (analysis : Analysis) (s : Store) (t : Messages) (campaignId : ℕ)
    (events : List NotificationEvent) : Prop where
  same : ∀ l l', Delivers events l → Delivers events l' →
    calculateVariantStatistics analysis s (deliver l t) campaignId =
      calculateVariantStatistics analysis s (deliver l' t) campaignId
  clicked : ∀ l, Delivers events l → ∀ variant ∈ s.readVariants campaignId, ∀ row ∈ t.rows,
    row.campaignId = campaignId → row.variantId = some variant.variantId →
      (∃ e ∈ events, e.writes row = some .clicked) →
        ∀ statuses ∈ [clickedStatuses, openedStatuses, deliveredStatuses],
          Counts (deliver l t) campaignId variant.variantId statuses row.messageId
  opened : ∀ l, Delivers events l → ∀ variant ∈ s.readVariants campaignId, ∀ row ∈ t.rows,
    row.campaignId = campaignId → row.variantId = some variant.variantId →
      (∃ e ∈ events, e.writes row = some .opened) →
        ∀ statuses ∈ [openedStatuses, deliveredStatuses],
          Counts (deliver l t) campaignId variant.variantId statuses row.messageId

/-- Of every message that is counted for a variant, the events that are stored are of one kind,
and a message that has been opened or clicked is counted. -/
structure Settled (s : Store) (t : Messages) (campaignId : ℕ) (events : List NotificationEvent) :
    Prop where
  agree : ∀ variant ∈ s.readVariants campaignId,
    ∀ row ∈ variantMessages (listMessages t campaignId 100000) variant.variantId,
      Agree (NotificationEvent.writes row) events
  counted : ∀ variant ∈ s.readVariants campaignId, ∀ row ∈ t.rows,
    row.campaignId = campaignId → row.variantId = some variant.variantId →
      (∃ e ∈ events, e.writes row ∈ [some MessageStatus.opened, some .clicked]) →
        row ∈ listMessages t campaignId 100000

/-! ### What a message becomes -/

section Becomes

variable {events : List NotificationEvent} {row row' : CampaignMessage} {t t' : Messages}
  {campaignId limit variantId : ℕ}

def outcome (events : List NotificationEvent) (row : CampaignMessage) : MessageStatus :=
  lastWrite (NotificationEvent.writes row) row.status events

structure Becomes (events : List NotificationEvent) (row row' : CampaignMessage) : Prop where
  messageId : row'.messageId = row.messageId
  campaignId : row'.campaignId = row.campaignId
  variantId : row'.variantId = row.variantId
  queuedAt : row'.queuedAt = row.queuedAt
  status : row'.status = outcome events row

theorem Becomes.refl (row : CampaignMessage) : Becomes [] row row := ⟨rfl, rfl, rfl, rfl, rfl⟩

theorem writes_congr (h : row'.messageId = row.messageId) :
    NotificationEvent.writes row' = NotificationEvent.writes row := by
  funext e
  cases e <;> rw [NotificationEvent.writes, NotificationEvent.writes, h]

theorem Becomes.concat {e : NotificationEvent} {row'' : CampaignMessage}
    (h : Becomes events row row') (h' : Becomes [e] row' row'') :
    Becomes (events ++ [e]) row row'' := by
  refine ⟨h'.messageId.trans h.messageId, h'.campaignId.trans h.campaignId,
    h'.variantId.trans h.variantId, h'.queuedAt.trans h.queuedAt, ?_⟩
  rw [h'.status, outcome, outcome, lastWrite_concat, writes_congr h.messageId, h.status]
  rfl

theorem handleNotification_rows {status : MessageStatus} {updates : MessageUpdates}
    {data : NotificationStatusEventData} {e : NotificationEvent}
    (he : ∀ row, e.writes row =
      if given data.messageId = some row.messageId ∧ updates.stored.isSome then some status
      else none) :
    ∃ f, (handleNotification status updates data t).rows = t.rows.map f ∧
      ∀ row, Becomes [e] row (f row) := by
  have hsame : (∀ row : CampaignMessage, e.writes row = none) →
      ∃ f, t.rows = t.rows.map f ∧ ∀ row, Becomes [e] row (f row) := by
    intro hsilent
    refine ⟨id, (map_id t.rows).symm, fun row => ⟨rfl, rfl, rfl, rfl, ?_⟩⟩
    change row.status = (e.writes row).getD row.status
    rw [hsilent row, getD_none]
  rw [handleNotification]
  cases hid : given data.messageId with
  | none =>
    refine hsame fun row => ?_
    rw [he, hid, if_neg fun h => some_ne_none _ h.1.symm]
  | some messageId =>
    dsimp only
    rw [updateMessageStatus]
    cases hstored : updates.stored with
    | none =>
      refine hsame fun row => ?_
      rw [he, hstored, if_neg fun h => Bool.false_ne_true h.2]
    | some stored =>
      refine ⟨fun row => if row.messageId = messageId then stored.apply status row else row,
        rfl, fun row => ?_⟩
      have hwrites : e.writes row = if row.messageId = messageId then some status else none := by
        rw [he, hid, hstored]
        simp [eq_comm]
      have hstatus : outcome [e] row = (e.writes row).getD row.status := rfl
      dsimp only
      split
      · next h =>
          refine ⟨rfl, rfl, rfl, rfl, ?_⟩
          rw [hstatus, hwrites, if_pos h]
          rfl
      · next h =>
          refine ⟨rfl, rfl, rfl, rfl, ?_⟩
          rw [hstatus, hwrites, if_neg h]
          rfl

theorem stored_delivered (now : Timestamp) (text : Option PyStr) :
    (MessageUpdates.stored { deliveredAt := some now, providerMessageId := some text }).isSome ↔
      ∀ s ∈ text, (varchar 100 s).isSome := by
  cases text with
  | none => simp [MessageUpdates.stored]
  | some s => simp [MessageUpdates.stored]

theorem handle_rows (now : Timestamp) (e : NotificationEvent) (t : Messages) :
    ∃ f, (e.handle now t).rows = t.rows.map f ∧ ∀ row, Becomes [e] row (f row) := by
  cases e with
  | delivered data =>
    refine handleNotification_rows fun row => ?_
    rw [NotificationEvent.writes]
    simp only [stored_delivered]
  | opened data =>
    refine handleNotification_rows fun row => ?_
    simp [NotificationEvent.writes, MessageUpdates.stored]
  | clicked data =>
    refine handleNotification_rows fun row => ?_
    simp [NotificationEvent.writes, MessageUpdates.stored]

theorem deliver_rows (l : List (Timestamp × NotificationEvent)) (t : Messages) :
    ∃ f, (deliver l t).rows = t.rows.map f ∧ ∀ row, Becomes (l.map Prod.snd) row (f row) := by
  induction l using reverseRecOn with
  | nil => exact ⟨id, (map_id t.rows).symm, Becomes.refl⟩
  | append_singleton l d ih =>
    obtain ⟨f, hf, hbecomes⟩ := ih
    obtain ⟨g, hg, hnext⟩ := handle_rows d.1 d.2 (deliver l t)
    refine ⟨g ∘ f, ?_, fun row => ?_⟩
    · rw [deliver, foldl_append]
      change (d.2.handle d.1 (deliver l t)).rows = _
      rw [hg, hf, List.map_map]
    · rw [List.map_append]
      exact (hbecomes row).concat (hnext (f row))

theorem listed_map {f : CampaignMessage → CampaignMessage} (hrows : t'.rows = t.rows.map f)
    (hf : ∀ row, Becomes events row (f row)) :
    variantMessages (listMessages t' campaignId limit) variantId =
      (variantMessages (listMessages t campaignId limit) variantId).map f := by
  have hfilter : t'.rows.filter (·.campaignId = campaignId) =
      (t.rows.filter (·.campaignId = campaignId)).map f := by
    rw [hrows, List.filter_map]
    refine congrArg _ (List.filter_congr fun row _ => ?_)
    rw [Function.comp, (hf row).campaignId]
  have hlist : listMessages t' campaignId limit = (listMessages t campaignId limit).map f := by
    rw [listMessages, hfilter, orderBy_map _ _ fun row _ => by rw [(hf row).queuedAt],
      ← List.map_take]
    rfl
  rw [hlist, variantMessages, List.filter_map]
  refine congrArg _ (List.filter_congr fun row _ => ?_)
  rw [Function.comp, (hf row).variantId]

theorem withStatus_map {f : CampaignMessage → CampaignMessage}
    (hf : ∀ row, Becomes events row (f row)) (statuses : List MessageStatus)
    (messages : List CampaignMessage) :
    withStatus statuses (messages.map f) =
      (messages.filter fun row => outcome events row ∈ statuses).map f := by
  rw [withStatus, List.filter_map]
  refine congrArg _ (List.filter_congr fun row _ => ?_)
  rw [Function.comp, (hf row).status]

end Becomes

/-! ### What is counted -/

section Counted

variable {analysis : Analysis} {s : Store} {t : Messages} {campaignId variantId : ℕ}
  {events : List NotificationEvent} {l l' : List (Timestamp × NotificationEvent)}
  {row : CampaignMessage} {statuses : List MessageStatus} {e : NotificationEvent}
  {a : MessageStatus}

theorem mem_variantMessages {messages : List CampaignMessage} :
    row ∈ variantMessages messages variantId ↔ row ∈ messages ∧ row.variantId = some variantId := by
  rw [variantMessages, mem_filter, decide_eq_true_iff]

theorem mem_rows_of_listed {limit : ℕ} (h : row ∈ listMessages t campaignId limit) :
    row ∈ t.rows ∧ row.campaignId = campaignId := by
  have hmem := (mem_orderBy _ _).mp (mem_of_mem_take h)
  rwa [mem_filter, decide_eq_true_iff] at hmem

theorem nodup_listed (t : Messages) (campaignId limit variantId : ℕ) :
    (variantMessages (listMessages t campaignId limit) variantId).Nodup := by
  have hrows : t.rows.Nodup := Nodup.of_map _ t.unique
  have hordered := (orderBy_perm (fun row : CampaignMessage => -row.queuedAt)
    (t.rows.filter (·.campaignId = campaignId))).nodup_iff.mpr (hrows.filter _)
  exact (hordered.sublist (take_sublist limit _)).filter _

theorem counts_deliver (hrow : row ∈ t.rows) (hvariant : row.variantId = some variantId) :
    Counts (deliver l t) campaignId variantId statuses row.messageId ↔
      row ∈ listMessages t campaignId 100000 ∧ outcome (l.map Prod.snd) row ∈ statuses := by
  obtain ⟨f, hrows, hf⟩ := deliver_rows l t
  rw [Counts, listed_map hrows hf, withStatus_map hf, List.map_map, List.mem_map]
  constructor
  · rintro ⟨old, hold, hid⟩
    obtain ⟨hmine, houtcome⟩ := mem_filter.mp hold
    obtain ⟨hlisted, -⟩ := mem_variantMessages.mp hmine
    have hsame : old = row :=
      inj_on_of_nodup_map t.unique (mem_rows_of_listed hlisted).1 hrow
        ((hf old).messageId.symm.trans hid)
    subst hsame
    exact ⟨hlisted, of_decide_eq_true houtcome⟩
  · rintro ⟨hlisted, houtcome⟩
    exact ⟨row, mem_filter.mpr ⟨mem_variantMessages.mpr ⟨hlisted, hvariant⟩,
      decide_eq_true houtcome⟩, (hf row).messageId⟩

def tally (mine : List CampaignMessage) (events : List NotificationEvent) : VariantData :=
  let among (statuses : List MessageStatus) := mine.countP fun row => outcome events row ∈ statuses
  { sent := mine.length
    delivered := among deliveredStatuses
    opened := among openedStatuses
    clicked := among clickedStatuses }

theorem variantData_deliver (l : List (Timestamp × NotificationEvent)) (t : Messages)
    (campaignId limit variantId : ℕ) :
    variantData (listMessages (deliver l t) campaignId limit) variantId =
      tally (variantMessages (listMessages t campaignId limit) variantId) (l.map Prod.snd) := by
  obtain ⟨f, hrows, hf⟩ := deliver_rows l t
  simp only [variantData, tally, listed_map hrows hf, withStatus_map hf, length_map,
    countP_eq_length_filter]

theorem tally_congr {mine : List CampaignMessage} {past past' : List NotificationEvent}
    (h : ∀ row ∈ mine, outcome past row = outcome past' row) :
    tally mine past = tally mine past' := by
  have hcount : ∀ statuses : List MessageStatus,
      (mine.countP fun row => outcome past row ∈ statuses) =
        mine.countP fun row => outcome past' row ∈ statuses := by
    intro statuses
    refine countP_congr fun row hrow => ?_
    rw [h row hrow]
  simp only [tally, hcount]

theorem iff_of_countP_eq {α : Type} {p q : α → Bool} {l : List α} {a : α} (hnodup : l.Nodup)
    (ha : a ∈ l) (hcount : l.countP p = l.countP q) (h : ∀ b ∈ l, b ≠ a → p b = q b) :
    p a = q a := by
  induction l with
  | nil => exact absurd ha not_mem_nil
  | cons b l ih =>
    obtain ⟨hb, hl⟩ := nodup_cons.mp hnodup
    rw [countP_cons, countP_cons] at hcount
    rcases mem_cons.mp ha with rfl | ha
    · have hrest : l.countP p = l.countP q := by
        refine countP_congr fun c hc => ?_
        have hne : c ≠ a := fun hca => hb (hca ▸ hc)
        rw [h c (mem_cons_of_mem a hc) hne]
      rw [hrest] at hcount
      cases hp : p a <;> cases hq : q a <;> simp [hp, hq] at hcount ⊢
    · have hne : b ≠ a := fun hba => hb (hba ▸ ha)
      rw [h b mem_cons_self hne] at hcount
      exact ih hl ha (Nat.add_right_cancel hcount) fun c hc => h c (mem_cons_of_mem b hc)

theorem writes_mem (h : e.writes row = some a) : a ∈ deliveredStatuses := by
  cases e with
  | delivered data =>
    rw [NotificationEvent.writes, ite_none_right_eq_some] at h
    rw [← some.inj h.2]
    decide
  | opened data =>
    rw [NotificationEvent.writes, ite_none_right_eq_some] at h
    rw [← some.inj h.2]
    decide
  | clicked data =>
    rw [NotificationEvent.writes, ite_none_right_eq_some] at h
    rw [← some.inj h.2]
    decide

theorem writes_eq_none {old : CampaignMessage} (h : e.writes row = some a)
    (hne : old.messageId ≠ row.messageId) : e.writes old = none := by
  have hother : ∀ data : NotificationStatusEventData, given data.messageId = some row.messageId →
      given data.messageId ≠ some old.messageId := by
    intro data hid hold
    exact hne (some.inj (hold.symm.trans hid))
  cases e with
  | delivered data =>
    rw [NotificationEvent.writes, ite_none_right_eq_some] at h
    exact if_neg fun hold => hother data h.1.1 hold.1
  | opened data =>
    rw [NotificationEvent.writes, ite_none_right_eq_some] at h
    exact if_neg (hother data h.1)
  | clicked data =>
    rw [NotificationEvent.writes, ite_none_right_eq_some] at h
    exact if_neg (hother data h.1)

theorem eq_of_tally_eq {mine : List CampaignMessage} {e' : NotificationEvent}
    {past : List NotificationEvent} {b : MessageStatus} (hnodup : mine.Nodup) (hrow : row ∈ mine)
    (ha : e.writes row = some a) (hb : e'.writes row = some b)
    (hids : ∀ old ∈ mine, old ≠ row → old.messageId ≠ row.messageId)
    (htally : tally mine (past ++ [e]) = tally mine (past ++ [e'])) : a = b := by
  have hcongr : ∀ old ∈ mine, old ≠ row →
      outcome (past ++ [e]) old = outcome (past ++ [e']) old := by
    intro old hold hne
    rw [outcome, outcome, lastWrite_concat, lastWrite_concat,
      writes_eq_none ha (hids old hold hne), writes_eq_none hb (hids old hold hne)]
  have hiff : ∀ statuses : List MessageStatus,
      (mine.countP fun row => outcome (past ++ [e]) row ∈ statuses) =
        (mine.countP fun row => outcome (past ++ [e']) row ∈ statuses) →
      (a ∈ statuses ↔ b ∈ statuses) := by
    intro statuses hcount
    have hsame := iff_of_countP_eq hnodup hrow hcount fun old hold hne => by
      rw [hcongr old hold hne]
    rwa [outcome, outcome, lastWrite_concat, lastWrite_concat, ha, hb, getD_some,
      getD_some, decide_eq_decide] at hsame
  have hopened := hiff openedStatuses (congrArg VariantData.opened htally)
  have hclicked := hiff clickedStatuses (congrArg VariantData.clicked htally)
  have hamong := writes_mem ha
  have hamong' := writes_mem hb
  simp only [deliveredStatuses, openedStatuses, clickedStatuses, mem_cons, not_mem_nil,
    or_false] at hamong hamong' hopened hclicked
  rcases hamong with rfl | rfl | rfl <;> rcases hamong' with rfl | rfl | rfl <;> simp_all

/-! ### What is returned -/

def VariantStatistics.data (result : VariantStatistics) : VariantData :=
  ⟨result.sent, result.delivered, result.opened, result.clicked⟩

theorem data_compare (data control : VariantData) (variant : CampaignVariant) :
    (analysis.compare data control variant).data = data := by
  rw [Analysis.compare]
  split <;> rfl

theorem map_data_results (messages : List CampaignMessage) (variants : List CampaignVariant) :
    (analysis.results messages variants).map VariantStatistics.data =
      variants.map fun variant => variantData messages variant.variantId := by
  cases variants with
  | nil => rfl
  | cons first rest =>
    rw [Analysis.results, List.map_cons, List.map_map]
    refine congrArg₂ cons rfl (map_congr_left fun variant _ => ?_)
    exact data_compare _ _ _

theorem results_eq_iff {messages messages' : List CampaignMessage}
    {variants : List CampaignVariant} :
    analysis.results messages variants = analysis.results messages' variants ↔
      ∀ variant ∈ variants,
        variantData messages variant.variantId = variantData messages' variant.variantId := by
  constructor
  · intro h
    have hdata := congrArg (map VariantStatistics.data) h
    rwa [map_data_results, map_data_results, map_inj_left] at hdata
  · intro h
    cases variants with
    | nil => rfl
    | cons first rest =>
      rw [Analysis.results, h first mem_cons_self]
      refine congrArg _ (map_congr_left fun variant hvariant => ?_)
      rw [h variant (mem_cons_of_mem first hvariant)]

theorem calculateVariantStatistics_eq (analysis : Analysis) (s : Store) (t : Messages)
    (campaignId : ℕ) :
    calculateVariantStatistics analysis s t campaignId =
      if (s.selectCampaign campaignId none).isSome then
        .ok (analysis.results (listMessages t campaignId 100000) (s.readVariants campaignId))
      else .error (.notFound campaignId) := by
  have hnone : given none = none := rfl
  rw [calculateVariantStatistics, run_getCampaign, hnone, Store.readVariants]
  cases s.selectCampaign campaignId none <;> rfl

theorem calculate_eq_iff {t' : Messages} :
    calculateVariantStatistics analysis s t campaignId =
        calculateVariantStatistics analysis s t' campaignId ↔
      ∀ variant ∈ s.readVariants campaignId,
        variantData (listMessages t campaignId 100000) variant.variantId =
          variantData (listMessages t' campaignId 100000) variant.variantId := by
  rw [calculateVariantStatistics_eq, calculateVariantStatistics_eq]
  cases hselect : s.selectCampaign campaignId none with
  | none => simp [Store.readVariants, hselect]
  | some row =>
    rw [if_pos isSome_some, if_pos isSome_some, Except.ok.injEq, results_eq_iff]

/-! ### The law -/

theorem delivers_all (events : List NotificationEvent) :
    Delivers events (events.map fun e => (0, e)) := by
  have hevents : (events.map fun e => ((0 : Timestamp), e)).map Prod.snd = events := by
    rw [List.map_map]
    exact map_id events
  refine ⟨?_, ?_⟩
  · rw [hevents]
  · rw [hevents]
    exact Subset.refl events

theorem Delivers.concat (h : Delivers events l) (he : e ∈ events) :
    Delivers events (l ++ [(0, e)]) := by
  refine ⟨?_, ?_⟩
  · rw [List.map_append]
    exact h.all.trans (sublist_append_left _ _).subperm
  · rw [List.map_append]
    refine append_subset.mpr ⟨h.only, ?_⟩
    intro e' he'
    rw [mem_singleton.mp he']
    exact he

theorem outcome_eq (h : Delivers events l) (hagree : Agree (NotificationEvent.writes row) events)
    (he : e ∈ events) (ha : e.writes row = some a) : outcome (l.map Prod.snd) row = a :=
  lastWrite_eq_of_agree (hagree.subset h.only) (h.all.subset he) ha

theorem counts_of_settled (h : Settled s t campaignId events) (hl : Delivers events l)
    {variant : CampaignVariant} (hvariant : variant ∈ s.readVariants campaignId)
    (hrow : row ∈ t.rows) (hcampaign : row.campaignId = campaignId)
    (hmine : row.variantId = some variant.variantId) (he : e ∈ events)
    (hwrites : e.writes row = some a) (hkind : a ∈ openedStatuses) (hstatus : a ∈ statuses) :
    Counts (deliver l t) campaignId variant.variantId statuses row.messageId := by
  have hlisted : row ∈ listMessages t campaignId 100000 := by
    refine h.counted variant hvariant row hrow hcampaign hmine ⟨e, he, ?_⟩
    rw [hwrites]
    simpa [openedStatuses] using hkind
  have hagree := h.agree variant hvariant row (mem_variantMessages.mpr ⟨hlisted, hmine⟩)
  refine (counts_deliver hrow hmine).mpr ⟨hlisted, ?_⟩
  rwa [outcome_eq hl hagree he hwrites]

theorem orderFree_of_settled (h : Settled s t campaignId events) :
    OrderFree analysis s t campaignId events where
  same l l' hl hl' := by
    refine calculate_eq_iff.mpr fun variant hvariant => ?_
    rw [variantData_deliver, variantData_deliver]
    refine tally_congr fun row hrow => ?_
    have hagree := h.agree variant hvariant row hrow
    refine lastWrite_congr (hagree.subset hl'.only) ?_ ?_
    · exact fun e he => hl'.all.subset (hl.only he)
    · exact fun e he => hl.all.subset (hl'.only he)
  clicked l hl variant hvariant row hrow hcampaign hmine hevent statuses hstatuses := by
    obtain ⟨e, he, hwrites⟩ := hevent
    refine counts_of_settled h hl hvariant hrow hcampaign hmine he hwrites (by decide) ?_
    revert statuses
    decide
  opened l hl variant hvariant row hrow hcampaign hmine hevent statuses hstatuses := by
    obtain ⟨e, he, hwrites⟩ := hevent
    refine counts_of_settled h hl hvariant hrow hcampaign hmine he hwrites (by decide) ?_
    revert statuses
    decide

theorem settled_of_orderFree (h : OrderFree analysis s t campaignId events) :
    Settled s t campaignId events where
  agree variant hvariant row hrow e he e' he' a ha b hb := by
    have hall := delivers_all events
    have hsame := calculate_eq_iff.mp (h.same _ _ (hall.concat he) (hall.concat he')) variant
      hvariant
    rw [variantData_deliver, variantData_deliver, List.map_append, List.map_append] at hsame
    refine eq_of_tally_eq (nodup_listed t campaignId 100000 variant.variantId) hrow ha hb ?_ hsame
    intro old hold hne hid
    have hin := (mem_rows_of_listed (mem_variantMessages.mp hold).1).1
    have hin' := (mem_rows_of_listed (mem_variantMessages.mp hrow).1).1
    exact hne (inj_on_of_nodup_map t.unique hin hin' hid)
  counted variant hvariant row hrow hcampaign hmine hevent := by
    obtain ⟨e, he, hkind⟩ := hevent
    have hall := delivers_all events
    have hcounts : Counts (deliver (events.map fun e => (0, e)) t)
        campaignId variant.variantId openedStatuses
        row.messageId := by
      rcases mem_cons.mp hkind with hkind | hkind
      · exact h.opened _ hall variant hvariant row hrow hcampaign hmine ⟨e, he, hkind⟩ _ (by simp)
      · exact h.clicked _ hall variant hvariant row hrow hcampaign hmine
          ⟨e, he, mem_singleton.mp hkind⟩ _ (by simp)
    exact ((counts_deliver hrow hmine).mp hcounts).1

/-- The statistics do not depend on the order exactly if no message that is counted has events of
two kinds, and none that was opened or clicked is left out. -/
theorem orderFree_iff (analysis : Analysis) (s : Store) (t : Messages) (campaignId : ℕ)
    (events : List NotificationEvent) :
    OrderFree analysis s t campaignId events ↔ Settled s t campaignId events :=
  ⟨settled_of_orderFree, orderFree_of_settled⟩

end Counted

/-! ### A click before its delivery -/

def launched : Store :=
  { Store.empty with
    campaigns := Table.empty.insert
      { organizationId := "org".toList, name := "launch".toList, campaignType := .scheduled
        status := .running, timezone := "UTC".toList, createdBy := "u".toList }
    variants := Table.empty.insert
      { campaignId := 0, name := "A".toList, description := none, allocationPercentage := 100
        isControl := true } }

def mailed : CampaignMessage :=
  { messageId := "msg".toList, campaignId := 0, variantId := some 0, status := .sent
    queuedAt := 0 }

def outbox : Messages := ⟨[mailed], List.nodup_singleton _⟩

def report : NotificationStatusEventData := { messageId := some "msg".toList }

/-- The delivery that is reported last takes the click away. -/
theorem not_orderFree :
    ¬∀ analysis s t campaignId events, OrderFree analysis s t campaignId events := by
  intro h
  have hlaw := h ⟨fun _ => none, "click_rate".toList, 95 / 100⟩ launched outbox 0
    [.clicked report, .delivered report]
  have hdelivers : Delivers [.clicked report, .delivered report]
      [(0, .clicked report), (1, .delivered report)] :=
    ⟨Subperm.refl _, Subset.refl _⟩
  have hclicked := hlaw.clicked _ hdelivers _ mem_cons_self mailed mem_cons_self rfl rfl
  revert hclicked
  decide +kernel

end IsaUser.Campaigns
