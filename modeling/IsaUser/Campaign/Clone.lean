import IsaUser.Campaign.Statements

/-!
# A Clone

`clone_campaign` draws new ids for the audiences, the variants and the triggers of the copy, and
copies the channels with their ids. A channel with an id that is there overwrites the row that has
it, which stays with the source: the copy reads back without channels.
-/

open IsaUser.Prog List Option

namespace IsaUser.Campaigns

/-! ### What is compared -/

structure VariantContent where
  name : PyStr
  description : Option PyStr
  allocationPercentage : ℚ
  isControl : Bool
  channels : List ChannelContent
  deriving DecidableEq

def CampaignVariant.content (variant : CampaignVariant) : VariantContent :=
  { name := variant.name
    description := variant.description
    allocationPercentage := variant.allocationPercentage
    isControl := variant.isControl
    channels := variant.channels.map (·.toChannelContent) }

structure Content where
  audiences : List CampaignAudience
  variants : List VariantContent
  triggers : List CampaignTrigger

def Campaign.content (campaign : Campaign) : Content :=
  { audiences := campaign.audiences
    variants := campaign.variants.map (·.content)
    triggers := campaign.triggers }

def Store.readBack (s : Store) (campaignId : ℕ) : Except CampaignError Campaign :=
  ((getCampaign campaignId none).run handle (s, .up)).1

def Faithful (s s' : Store) (sourceId copyId : ℕ) : Prop :=
  ∃ source copy, s.readBack sourceId = .ok source ∧ s'.readBack copyId = .ok copy ∧
    copy.content = source.content ∧
      ∀ v ∈ source.variants, ∀ w ∈ copy.variants, v.variantId ≠ w.variantId ∧
        ∀ c ∈ v.channels, ∀ d ∈ w.channels, c.channelId ≠ d.channelId

/-! ### What a statement leaves alone -/

def Call.On (campaignId : ℕ) : Call → Prop
  | insertCampaign _ => False
  | updateCampaign id _ => id = campaignId
  | deleteCampaign id _ => id = campaignId
  | deleteAudiences id => id = campaignId
  | insertAudience row => row.campaignId = campaignId
  | insertVariant id _ _ => id = campaignId
  | updateVariant id _ _ => id = campaignId
  | insertChannel row => row.campaignId = campaignId
  | deleteTriggers id => id = campaignId
  | insertTrigger row => row.campaignId = campaignId
  | _ => True

structure ChannelRow.Alike (row old : ChannelRow) : Prop where
  campaignId : row.campaignId = old.campaignId
  variantId : row.variantId = old.variantId
  priority : row.priority = old.priority
  toChannel : row.toChannel = old.toChannel

def Own (s : Store) : Call → Prop
  | .insertChannel row => ∀ old ∈ s.channels, old.channelId = row.channelId →
      old.campaignId = row.campaignId ∨ (old.overwrite row).Alike old
  | _ => True

instance (row old : ChannelRow) : Decidable (row.Alike old) :=
  decidable_of_iff (row.campaignId = old.campaignId ∧ row.variantId = old.variantId ∧
    row.priority = old.priority ∧ row.toChannel = old.toChannel)
    ⟨fun ⟨h₁, h₂, h₃, h₄⟩ => ⟨h₁, h₂, h₃, h₄⟩, fun ⟨h₁, h₂, h₃, h₄⟩ => ⟨h₁, h₂, h₃, h₄⟩⟩

instance (s : Store) : DecidablePred (Own s)
  | .insertChannel _ => inferInstanceAs (Decidable (∀ old ∈ s.channels, _ → _ ∨ _))
  | .insertCampaign _ | .selectCampaign _ _ | .updateCampaign _ _ | .deleteCampaign _ _
  | .deleteAudiences _ | .insertAudience _ | .selectAudiences _ | .insertVariant _ _ _
  | .updateVariant _ _ _ | .selectVariants _ | .selectChannels _ _ | .deleteTriggers _
  | .insertTrigger _ | .selectTriggers _ | .countExecutions _ | .selectExecutions _
  | .updateExecution _ _ _ => .isTrue trivial

def Store.reading (s : Store) (campaignId : ℕ) : Option Campaign :=
  (s.campaigns.get? campaignId).map (s.load campaignId)

variable {s t : Store} {id x y : ℕ}

theorem readBack_eq : s.readBack id = (s.reading id).elim (.error (.notFound id)) .ok := by
  rw [Store.readBack, run_getCampaign, Store.selectCampaign, Store.reading]
  cases s.campaigns.get? id with
  | none => rfl
  | some row => rfl

theorem readBack_congr (h : t.reading id = s.reading id) : t.readBack id = s.readBack id := by
  rw [readBack_eq, readBack_eq, h]

theorem reading_congr (hcampaigns : t.campaigns.get? y = s.campaigns.get? y)
    (haudiences : t.audiencesOf y = s.audiencesOf y)
    (hvariants : t.variants.select (·.campaignId = y) = s.variants.select (·.campaignId = y))
    (hchannels : ∀ variantId, t.readChannels y variantId = s.readChannels y variantId)
    (htriggers : t.triggersOf y = s.triggersOf y) : t.reading y = s.reading y := by
  have hload : t.load y = s.load y := by
    funext row
    simp only [Store.load, Store.variantsOf, haudiences, hvariants, hchannels, htriggers]
  rw [Store.reading, Store.reading, hcampaigns, hload]

theorem reading_referring {ρ : Type} {reply : ρ} {inserted : Store}
    (h : inserted.reading y = s.reading y) :
    (s.referring id reply inserted).2.reading y = s.reading y := by
  rw [Store.referring]
  split
  · exact h
  · rfl

theorem referring_ok {ρ : Type} {reply r : ρ} {inserted : Store}
    (h : s.referring id reply inserted = (.ok r, t)) : t = inserted := by
  rw [Store.referring] at h
  split at h
  · exact (congrArg Prod.snd h).symm
  · cases h

theorem mapM_toChannel_map {f : ChannelRow → ChannelRow} {rows : List ChannelRow}
    (h : ∀ row ∈ rows, (f row).toChannel = row.toChannel) :
    (rows.map f).mapM ChannelRow.toChannel = rows.mapM ChannelRow.toChannel := by
  rw [mapM_map]
  induction rows with
  | nil => rfl
  | cons row rows ih =>
    rw [mapM_cons, mapM_cons, Function.comp_apply, h row mem_cons_self,
      ih fun other hother => h other (mem_cons_of_mem row hother)]

theorem readChannels_map {f : ChannelRow → ChannelRow}
    (h : ∀ row ∈ s.channels, row.campaignId = y → (f row).Alike row)
    (hother : ∀ row ∈ s.channels, (f row).campaignId = row.campaignId) (variantId : ℕ) :
    ({ s with channels := s.channels.map f } : Store).readChannels y variantId =
      s.readChannels y variantId := by
  have hfilter : (s.channels.map f).filter (fun row => row.campaignId = y ∧
      row.variantId = variantId) = (s.channels.filter fun row => row.campaignId = y ∧
        row.variantId = variantId).map f := by
    rw [List.filter_map]
    congr 1
    refine List.filter_congr fun row hrow => ?_
    dsimp only [Function.comp]
    rw [hother row hrow]
    by_cases hy : row.campaignId = y
    · rw [(h row hrow hy).variantId]
    · simp [hy]
  have halike : ∀ row ∈ s.channels.filter (fun row => row.campaignId = y ∧
      row.variantId = variantId), (f row).Alike row := by
    intro row hrow
    obtain ⟨hmem, hplace⟩ := mem_filter.mp hrow
    exact h row hmem (of_decide_eq_true hplace).1
  rw [Store.readChannels, Store.readChannels, Store.channelsOf, Store.channelsOf, hfilter,
    orderBy_map _ _ fun row hrow => (halike row hrow).priority,
    mapM_toChannel_map fun row hrow => (halike row ((mem_orderBy _ _).mp hrow)).toChannel]

theorem readChannels_upsert {row : ChannelRow} (hown : Own s (.insertChannel row))
    (hy : row.campaignId ≠ y) (variantId : ℕ) :
    (s.upsertChannel row).readChannels y variantId = s.readChannels y variantId := by
  rw [Store.upsertChannel]
  split
  · refine readChannels_map (fun old hold hplace => ?_) (fun old _ => ?_) variantId
    · split
      · next hid =>
          exact (hown old hold hid).resolve_left fun hsame => hy (hsame.symm.trans hplace)
      · exact ⟨rfl, rfl, rfl, rfl⟩
    · split <;> rfl
  · have hfilter : (s.channels ++ [row]).filter (fun old => old.campaignId = y ∧
        old.variantId = variantId) = s.channels.filter fun old => old.campaignId = y ∧
          old.variantId = variantId := by
      simp [hy]
    rw [Store.readChannels, Store.readChannels, Store.channelsOf, Store.channelsOf, hfilter]

section Rows

variable {ρ : Type} {campaignOf : ρ → ℕ} (rows : List ρ)

theorem filter_deleted (hy : x ≠ y) :
    (rows.filter (campaignOf · ≠ x)).filter (campaignOf · = y) =
      rows.filter (campaignOf · = y) := by
  rw [List.filter_filter]
  refine List.filter_congr fun row _ => ?_
  by_cases hrow : campaignOf row = y
  · simp [hrow, hy.symm]
  · simp [hrow]

theorem filter_inserted {row : ρ} (hy : campaignOf row ≠ y) :
    (rows ++ [row]).filter (campaignOf · = y) = rows.filter (campaignOf · = y) := by
  simp [hy]

end Rows

/-- **A statement on one campaign does not show in another.** -/
theorem reading_execute {c : Call} (hc : c.On x) (hown : Own s c) (hy : x ≠ y) :
    (execute c s).2.reading y = s.reading y := by
  cases c with
  | insertCampaign row => exact hc.elim
  | updateCampaign id updates =>
    subst hc
    exact reading_congr (Table.get?_modify_ne hy _ _) rfl rfl (fun _ => rfl) rfl
  | deleteCampaign id now =>
    subst hc
    exact reading_congr (Table.get?_modify_ne hy _ _) rfl rfl (fun _ => rfl) rfl
  | deleteAudiences id =>
    subst hc
    exact reading_congr rfl (congrArg (map _) (filter_deleted _ hy)) rfl (fun _ => rfl) rfl
  | insertAudience row =>
    subst hc
    exact reading_referring
      (reading_congr rfl (congrArg (map _) (filter_inserted _ hy)) rfl (fun _ => rfl) rfl)
  | deleteTriggers id =>
    subst hc
    exact reading_congr rfl rfl rfl (fun _ => rfl) (congrArg (map _) (filter_deleted _ hy))
  | insertTrigger row =>
    subst hc
    exact reading_referring
      (reading_congr rfl rfl rfl (fun _ => rfl) (congrArg (map _) (filter_inserted _ hy)))
  | insertVariant id variant allocation =>
    subst hc
    rw [execute]
    split
    · rfl
    · refine reading_referring (reading_congr rfl rfl ?_ (fun _ => rfl) rfl)
      simp [Table.select_insert, VariantDraft.toRow, hy]
  | updateVariant id variantId allocation =>
    subst hc
    rw [execute]
    dsimp only
    split
    · split <;> rfl
    · refine reading_congr rfl rfl (Table.select_modify _ _ (fun row => ?_) fun row hrow => ?_)
        (fun _ => rfl) rfl
      · split <;> rfl
      · have hplace : row.campaignId = y := of_decide_eq_true hrow
        rw [if_neg (hplace.trans_ne hy.symm)]
  | insertChannel row =>
    subst hc
    rw [execute]
    split
    · refine reading_referring ?_
      exact reading_congr rfl rfl rfl (readChannels_upsert hown hy) rfl
    · rfl
  | _ => rfl

/-! ### Copying a channel -/

variable {channel : CampaignChannel}

theorem overwrite_alike {row : ChannelRow} (h : row.toChannel = some channel) (variantId : ℕ) :
    (row.overwrite (channel.toRow id variantId)).Alike row := by
  have hread := h
  simp only [ChannelRow.toChannel, bind_eq_bind, bind_eq_some_iff] at h
  obtain ⟨email, hemail, sms, hsms, whatsapp, hwhatsapp, inApp, hinApp, webhook, hwebhook, h⟩ := h
  cases h
  refine ⟨rfl, rfl, rfl, hread.symm ▸ ?_⟩
  simp only [ChannelRow.toChannel, ChannelRow.overwrite, CampaignChannel.toRow, bind_eq_bind,
    bind_eq_some_iff]
  refine ⟨email, ?_, sms, hsms, whatsapp, hwhatsapp, inApp, hinApp, webhook, hwebhook, rfl⟩
  rw [readContent] at hemail
  split at hemail
  · -- Content that is read is written back as it is.
    next hpresent =>
      obtain ⟨content, hcontent, rfl⟩ := map_eq_some_iff.mp hemail
      obtain ⟨subject, hsubject, hcontent⟩ := bind_eq_some_iff.mp hcontent
      cases hcontent
      obtain ⟨hrow, -⟩ := filter_eq_some_iff.mp hsubject
      simp only [map_some, hrow] at hsubject ⊢
      rw [hsubject]
      rfl
  · -- Without content, neither of its two texts is left.
    cases hemail
    rfl

structure Held (copyId : ℕ) (channels : List CampaignChannel) (t : Store) : Prop where
  elsewhere : ∀ row ∈ t.channels, row.campaignId ≠ copyId
  stored : ∀ channel ∈ channels, ∃ row ∈ t.channels, row.channelId = channel.channelId
  reads : ∀ channel ∈ channels, ∀ row ∈ t.channels, row.channelId = channel.channelId →
    row.toChannel = some channel

theorem Held.own {n : ℕ} {channels : List CampaignChannel} (h : Held n channels t)
    (hchannel : channel ∈ channels) (variantId : ℕ) :
    Own t (.insertChannel (channel.toRow n variantId)) := by
  intro old hold hid
  exact .inr (overwrite_alike (h.reads channel hchannel old hold hid) variantId)

theorem Held.upsert {n : ℕ} {channels : List CampaignChannel} (h : Held n channels t)
    (hchannel : channel ∈ channels) (variantId : ℕ) :
    Held n channels (t.upsertChannel (channel.toRow n variantId)) := by
  have hexists : ∃ old ∈ t.channels, old.channelId = (channel.toRow n variantId).channelId :=
    h.stored channel hchannel
  rw [Store.upsertChannel, if_pos hexists]
  refine ⟨fun row hrow => ?_, fun other hother => ?_, fun other hother row hrow hid => ?_⟩
  · obtain ⟨old, hold, rfl⟩ := mem_map.mp hrow
    split <;> exact h.elsewhere old hold
  · obtain ⟨old, hold, hid⟩ := h.stored other hother
    refine ⟨_, mem_map_of_mem hold, ?_⟩
    split <;> exact hid
  · obtain ⟨old, hold, rfl⟩ := mem_map.mp hrow
    split at hid
    · next hsame =>
        rw [if_pos hsame, (overwrite_alike (h.reads channel hchannel old hold hsame) _).toChannel]
        exact h.reads other hother old hold hid
    · next hdifferent =>
        rw [if_neg hdifferent]
        exact h.reads other hother old hold hid

/-! ### Copying -/

section Answered

variable {α β : Type}

def Answered (P : α → Store → Prop) : Except CampaignError α → Moment → Prop
  | .ok a, m => m.2 = .up ∧ P a m.1
  | .error _, _ => True

theorem answered_ask {c : Call} {P : c.Reply → Store → Prop}
    (h : ∀ reply t, execute c s = (.ok reply, t) → P reply t) :
    (ask c).wp handle (Answered P) (s, .up) := by
  refine wp_query.mpr ?_
  change Answered P ((execute c s).1.mapError CampaignError.storage) ((execute c s).2, .up)
  cases hc : execute c s with
  | mk reply t =>
    cases reply with
    | error e => trivial
    | ok reply => exact ⟨rfl, h reply t hc⟩

theorem answered_bind {p : CampaignM α} {f : α → CampaignM β} {P : α → Store → Prop}
    {P' : β → Store → Prop} (hp : p.wp handle (Answered P) (s, .up))
    (hf : ∀ a t, P a t → (f a).wp handle (Answered P') (t, .up)) :
    (p >>= f).wp handle (Answered P') (s, .up) := by
  refine wp_bind.mpr (wp_mono hp ?_)
  rintro (_ | a) ⟨t, link⟩ h
  · trivial
  · obtain ⟨rfl, h⟩ := h
    exact hf a t h

theorem answered_each {statement : α → CampaignM Unit} {I : List α → Store → Prop} {l : List α}
    (hstep : ∀ a ∈ l, ∀ done t, I done t →
      (statement a).wp handle (Answered fun _ => I (done ++ [a])) (t, .up))
    (done : List α) (h : I done s) :
    (each statement l).wp handle (Answered fun _ => I (done ++ l)) (s, .up) := by
  induction l generalizing done s with
  | nil => exact ⟨rfl, (append_nil done).symm ▸ h⟩
  | cons a l ih =>
    refine answered_bind (hstep a mem_cons_self done s h) fun _ t ht => ?_
    rw [append_cons]
    exact ih (fun b hb => hstep b (mem_cons_of_mem a hb)) _ ht

end Answered

/-- A stage of a copy: what has been copied so far reads back, and the rest is as it was. -/
structure Stage (s : Store) (copyId : ℕ) (channels : List CampaignChannel) (content : Content)
    (t : Store) : Prop where
  copy : ∃ row, t.campaigns.get? copyId = some row
  others : ∀ y, copyId ≠ y → t.reading y = s.reading y
  held : Held copyId channels t
  audiences : t.audiencesOf copyId = content.audiences
  variants : (t.variantsOf copyId).map (·.content) = content.variants
  triggers : t.triggersOf copyId = content.triggers

section Stage

variable {n : ℕ} {channels : List CampaignChannel} {content : Content}

theorem Held.variantsOf (h : Held n channels t) : t.variantsOf n =
    (t.variants.select (·.campaignId = n)).map fun row => row.val.toVariant row.id [] := by
  have hnone : ∀ variantId, t.channelsOf n variantId = [] := by
    intro variantId
    have hfilter : t.channels.filter (fun row => row.campaignId = n ∧ row.variantId = variantId) =
        [] := by
      rw [filter_eq_nil_iff]
      exact fun row hrow hplace => h.elsewhere row hrow (of_decide_eq_true hplace).1
    rw [Store.channelsOf, hfilter]
    rfl
  refine map_congr_left fun row _ => ?_
  rw [Store.readChannels, hnone]
  rfl

theorem Stage.others_execute (h : Stage s n channels content t) {c : Call} (hc : c.On n)
    (hown : Own t c) : ∀ y, n ≠ y → (execute c t).2.reading y = s.reading y :=
  fun y hy => (reading_execute hc hown hy).trans (h.others y hy)

theorem Stage.congr {t' : Store} (h : Stage s n channels content t)
    (hothers : ∀ y, n ≠ y → t'.reading y = s.reading y) (hcampaigns : t'.campaigns = t.campaigns)
    (hchannels : t'.channels = t.channels) (hvariants : t'.variants = t.variants)
    {audiences : List CampaignAudience} {triggers : List CampaignTrigger}
    (haudiences : t'.audiencesOf n = audiences) (htriggers : t'.triggersOf n = triggers) :
    Stage s n channels { content with audiences, triggers } t' := by
  have hheld : Held n channels t' := by
    obtain ⟨helsewhere, hstored, hreads⟩ := h.held
    exact ⟨hchannels ▸ helsewhere, hchannels ▸ hstored, hchannels ▸ hreads⟩
  refine ⟨hcampaigns ▸ h.copy, hothers, hheld, haudiences, ?_, htriggers⟩
  rw [hheld.variantsOf, hvariants, ← h.held.variantsOf]
  exact h.variants

theorem toRow_of_mem {audience : CampaignAudience} (h : audience ∈ s.audiencesOf id) :
    (audience.toRow n).toCampaignAudience = audience := by
  obtain ⟨row, -, rfl⟩ := mem_map.mp h
  have hquery : row.segmentQuery.filter (!·.isEmpty) = row.segmentQuery := by
    cases hquery : row.segmentQuery with
    | none => rfl
    | some query =>
      cases query with
      | nil => exact absurd hquery row.stored
      | cons _ _ => rfl
  rw [CampaignAudience.toRow]
  simp only [hquery]

theorem stage_saveAudiences (id : ℕ) (content : Content)
    (h : Stage s n channels { content with audiences := [] } t)
    {audiences : List CampaignAudience} (hread : ∀ a ∈ audiences, a ∈ s.audiencesOf id) :
    (whereGiven (saveAudiences n) audiences).wp handle
      (Answered fun _ => Stage s n channels { content with audiences }) (t, .up) := by
  rw [whereGiven]
  split
  · next hnone =>
      subst hnone
      exact ⟨rfl, h⟩
  · refine answered_bind (P := fun _ => Stage s n channels { content with audiences := [] })
      (answered_ask ?_) fun _ t ht => ?_
    · rintro _ _ ⟨⟩
      refine h.congr (h.others_execute (c := .deleteAudiences n) rfl trivial) rfl rfl rfl ?_
        h.triggers
      change ((t.audiences.filter (·.campaignId ≠ n)).filter (·.campaignId = n)).map _ = []
      simp [List.filter_filter]
    · refine answered_bind (answered_each (I := fun done =>
        Stage s n channels { content with audiences := done }) ?_ [] ht) fun _ t ht => ⟨rfl, ht⟩
      intro audience haudience done t ht
      refine answered_ask fun _ t' hexecute => ?_
      have hothers := ht.others_execute (c := .insertAudience (audience.toRow n)) rfl trivial
      rw [hexecute] at hothers
      obtain rfl := referring_ok hexecute
      refine ht.congr hothers rfl rfl rfl ?_ ht.triggers
      change ((t.audiences ++ [audience.toRow n]).filter (·.campaignId = n)).map _ = _
      have hlast : [audience.toRow n].filter (·.campaignId = n) = [audience.toRow n] := by
        simp [CampaignAudience.toRow]
      rw [filter_append, hlast, map_append, map_singleton,
        toRow_of_mem (hread audience haudience)]
      exact congrArg (· ++ [audience]) ht.audiences

theorem stage_saveTriggers (content : Content)
    (h : Stage s n channels { content with triggers := [] } t)
    (triggers : List CampaignTrigger) :
    (whereGiven (saveTriggers n) triggers).wp handle
      (Answered fun _ => Stage s n channels { content with triggers }) (t, .up) := by
  rw [whereGiven]
  split
  · next hnone =>
      subst hnone
      exact ⟨rfl, h⟩
  · refine answered_bind (P := fun _ => Stage s n channels { content with triggers := [] })
      (answered_ask ?_) fun _ t ht => ?_
    · rintro _ _ ⟨⟩
      refine h.congr (h.others_execute (c := .deleteTriggers n) rfl trivial) rfl rfl rfl
        h.audiences ?_
      change ((t.triggers.filter (·.campaignId ≠ n)).filter (·.campaignId = n)).map _ = []
      simp [List.filter_filter]
    · refine answered_bind (answered_each (I := fun done =>
        Stage s n channels { content with triggers := done }) ?_ [] ht) fun _ t ht => ⟨rfl, ht⟩
      intro trigger htrigger done t ht
      refine answered_ask fun _ t' hexecute => ?_
      have hothers := ht.others_execute
        (c := .insertTrigger { toCampaignTrigger := trigger, campaignId := n }) rfl trivial
      rw [hexecute] at hothers
      obtain rfl := referring_ok hexecute
      refine ht.congr hothers rfl rfl rfl ht.audiences ?_
      change ((t.triggers ++ [TriggerRow.mk trigger n]).filter (·.campaignId = n)).map _ = _
      have hlast : [TriggerRow.mk trigger n].filter (·.campaignId = n) =
          [TriggerRow.mk trigger n] := by
        simp
      rw [filter_append, hlast, map_append]
      exact congrArg (· ++ [trigger]) ht.triggers

def CampaignVariant.bare (variant : CampaignVariant) : VariantContent :=
  { variant.content with channels := [] }

theorem Stage.upsertChannel (h : Stage s n channels content t) {channel : CampaignChannel}
    (hchannel : channel ∈ channels) (variantId : ℕ) :
    (ask (.insertChannel (channel.toRow n variantId))).wp handle
      (Answered fun _ => Stage s n channels content) (t, .up) := by
  refine answered_ask fun reply t' hexecute => ?_
  have hothers := h.others_execute (c := .insertChannel (channel.toRow n variantId)) rfl
    (h.held.own hchannel variantId)
  rw [hexecute] at hothers
  rw [execute] at hexecute
  split at hexecute
  · obtain rfl := referring_ok hexecute
    have hheld := h.held.upsert hchannel variantId
    refine ⟨h.copy, hothers, hheld, h.audiences, ?_, h.triggers⟩
    rw [hheld.variantsOf]
    rw [← h.variants, h.held.variantsOf]
    rfl
  · cases hexecute

theorem stage_makeVariant (h : Stage s n channels content t) {variant : CampaignVariant}
    (hallocation : ∃ k : ℕ, k ≤ 10000 ∧ variant.allocationPercentage = (k : ℚ) / 100)
    (hchannels : ∀ channel ∈ variant.channels, channel ∈ channels) :
    (makeVariant n variant.toVariantDraft).wp handle (Answered fun _ =>
      Stage s n channels { content with variants := content.variants ++ [variant.bare] })
        (t, .up) := by
  refine wp_require_bind (fun _ => ?_) fun _ => trivial
  refine answered_bind (P := fun _ => Stage s n channels
    { content with variants := content.variants ++ [variant.bare] })
    (answered_ask fun variantId t' hexecute => ?_) fun variantId t ht => ?_
  · have hothers := h.others_execute (c := .insertVariant n variant.toVariantDraft
      (float variant.allocationPercentage)) rfl trivial
    rw [hexecute] at hothers
    obtain ⟨k, hk, hvalue⟩ := hallocation
    have hstored : allocationColumn (float variant.allocationPercentage) =
        some variant.allocationPercentage := by
      rw [hvalue]
      exact allocationColumn_float hk
    rw [execute, hstored] at hexecute
    obtain rfl := referring_ok hexecute
    have hheld : Held n channels
        { t with variants := t.variants.insert (variant.toVariantDraft.toRow n
          variant.allocationPercentage) } :=
      ⟨h.held.elsewhere, h.held.stored, h.held.reads⟩
    refine ⟨h.copy, hothers, hheld, h.audiences, ?_, h.triggers⟩
    have hn : decide ((variant.toVariantDraft.toRow n variant.allocationPercentage).campaignId =
        n) = true := decide_eq_true rfl
    rw [hheld.variantsOf, Table.select_insert, if_pos hn, map_append, map_append,
      ← h.held.variantsOf, h.variants]
    rfl
  · refine answered_bind (answered_each (I := fun _ => Stage s n channels
      { content with variants := content.variants ++ [variant.bare] }) ?_ [] ht)
        fun _ t ht => ⟨rfl, ht⟩
    exact fun channel hchannel _ t ht => ht.upsertChannel (hchannels channel hchannel) variantId

theorem stage_cloneVariants (variants : List CampaignVariant)
    (h : Stage s n channels content t)
    (hallocation : ∀ variant ∈ variants,
      ∃ k : ℕ, k ≤ 10000 ∧ variant.allocationPercentage = (k : ℚ) / 100)
    (hchannels : ∀ variant ∈ variants, ∀ channel ∈ variant.channels, channel ∈ channels) :
    (cloneVariants n variants).wp handle (Answered fun _ =>
      Stage s n channels { content with variants := content.variants ++ variants.map (·.bare) })
        (t, .up) := by
  induction variants generalizing content t with
  | nil =>
    rw [map_nil, append_nil]
    exact ⟨rfl, h⟩
  | cons variant variants ih =>
    refine wp_require_bind (fun _ => ?_) fun _ => trivial
    refine answered_bind (stage_makeVariant h (hallocation variant mem_cons_self)
      (hchannels variant mem_cons_self)) fun _ t ht => ?_
    have hrest := ih ht (fun v hv => hallocation v (mem_cons_of_mem variant hv))
      fun v hv => hchannels v (mem_cons_of_mem variant hv)
    rw [map_cons, append_cons]
    exact answered_bind hrest fun _ t ht => ⟨rfl, ht⟩

end Stage

/-! ### From the source to its copy -/

theorem channelId_of_toChannel {row : ChannelRow} {channel : CampaignChannel}
    (h : row.toChannel = some channel) : row.channelId = channel.channelId := by
  simp only [ChannelRow.toChannel, bind_eq_bind, bind_eq_some_iff] at h
  obtain ⟨_, -, _, -, _, -, _, -, _, -, h⟩ := h
  cases h
  rfl

theorem exists_of_mem_mapM {α β : Type} {f : α → Option β} {l : List α} {m : List β}
    (h : l.mapM f = some m) {b : β} (hb : b ∈ m) : ∃ a ∈ l, f a = some b := by
  induction l generalizing m with
  | nil =>
    cases h
    exact absurd hb not_mem_nil
  | cons a l ih =>
    rw [mapM_cons] at h
    obtain ⟨c, hc, h⟩ := bind_eq_some_iff.mp h
    obtain ⟨rest, hrest, h⟩ := bind_eq_some_iff.mp h
    cases h
    rcases mem_cons.mp hb with rfl | hb
    · exact ⟨a, mem_cons_self, hc⟩
    · obtain ⟨a', ha', hread⟩ := ih hrest hb
      exact ⟨a', mem_cons_of_mem a ha', hread⟩

theorem exists_of_mem_readChannels {channel : CampaignChannel} {variantId : ℕ}
    (h : channel ∈ s.readChannels id variantId) :
    ∃ row ∈ s.channels, row.toChannel = some channel := by
  rw [Store.readChannels] at h
  cases hrows : (s.channelsOf id variantId).mapM ChannelRow.toChannel with
  | none =>
    rw [hrows] at h
    exact absurd h not_mem_nil
  | some channels =>
    rw [hrows] at h
    obtain ⟨row, hrow, hread⟩ := exists_of_mem_mapM hrows h
    exact ⟨row, (mem_filter.mp ((mem_orderBy _ _).mp hrow)).1, hread⟩

theorem held_of_valid (hs : s.Valid) (id : ℕ) : Held s.campaigns.size
    ((s.variantsOf id).flatMap (·.channels)) s := by
  have hread : ∀ channel ∈ (s.variantsOf id).flatMap (·.channels),
      ∃ row ∈ s.channels, row.toChannel = some channel := by
    intro channel hchannel
    obtain ⟨variant, hvariant, hchannel⟩ := mem_flatMap.mp hchannel
    obtain ⟨row, -, rfl⟩ := mem_map.mp hvariant
    exact exists_of_mem_readChannels hchannel
  refine ⟨fun row hrow => (hs.channels row hrow).ne, fun channel hchannel => ?_,
    fun channel hchannel row hrow hid => ?_⟩
  · obtain ⟨row, hrow, hread⟩ := hread channel hchannel
    exact ⟨row, hrow, channelId_of_toChannel hread⟩
  · obtain ⟨old, hold, hread⟩ := hread channel hchannel
    obtain rfl := inj_on_of_nodup_map hs.unique hrow hold
      (hid.trans (channelId_of_toChannel hread).symm)
    exact hread

theorem stage_start (hs : s.Valid) (id : ℕ) (row : CampaignRow) :
    Stage s s.campaigns.size ((s.variantsOf id).flatMap (·.channels)) ⟨[], [], []⟩
      { s with campaigns := s.campaigns.insert row } := by
  have hheld := held_of_valid hs id
  have hothers : ∀ y, s.campaigns.size ≠ y →
      ({ s with campaigns := s.campaigns.insert row } : Store).reading y = s.reading y := by
    intro y hy
    refine reading_congr ?_ rfl rfl (fun _ => rfl) rfl
    rw [Table.get?_insert, if_neg hy.symm]
  refine ⟨⟨row, Table.get?_insert_size _ _⟩, hothers, ⟨hheld.elsewhere, hheld.stored, hheld.reads⟩,
    ?_, ?_, ?_⟩
  · refine map_eq_nil_iff.mpr (filter_eq_nil_iff.mpr fun row hrow => ?_)
    simpa using (hs.audiences row hrow).ne
  · refine map_eq_nil_iff.mpr (map_eq_nil_iff.mpr ?_)
    rw [eq_nil_iff_forall_not_mem]
    intro row hrow
    obtain ⟨hget, hplace⟩ := Table.mem_select.mp hrow
    exact (hs.variants _ _ hget).ne (of_decide_eq_true hplace)
  · refine map_eq_nil_iff.mpr (filter_eq_nil_iff.mpr fun row hrow => ?_)
    simpa using (hs.triggers row hrow).ne

theorem answered_cloneCampaign (hs : s.Valid) (id : ℕ) (newName org clonedBy : Option PyStr) :
    (cloneCampaign id newName org clonedBy).wp handle (Answered fun clone t =>
      clone.campaignId = s.campaigns.size ∧ ∃ source, s.reading id = some source ∧
        Stage s s.campaigns.size (source.variants.flatMap (·.channels))
          { source.content with variants := source.variants.map (·.bare) } t) (s, .up) := by
  refine wp_bind.mpr ?_
  rw [wp, run_getCampaign]
  cases hselect : s.selectCampaign id (given org) with
  | none => trivial
  | some row =>
    have hrow : s.campaigns.get? id = some row := (filter_eq_some_iff.mp hselect).1
    refine wp_require_bind (fun _ => ?_) fun _ => trivial
    cases clonedBy with
    | none => trivial
    | some createdBy =>
      have hstart := stage_start hs id
      refine answered_bind (P := fun copyId t => copyId = s.campaigns.size ∧
        Stage s s.campaigns.size ((s.variantsOf id).flatMap (·.channels)) ⟨[], [], []⟩ t)
        (answered_ask ?_) ?_
      · rintro _ _ ⟨⟩
        exact ⟨rfl, hstart _⟩
      rintro _ t ⟨rfl, ht⟩
      refine answered_bind (stage_saveAudiences id ⟨[], [], []⟩ ht fun a ha => ha)
        fun _ t ht => ?_
      refine answered_bind (stage_cloneVariants _ ht ?_ ?_) fun _ t ht => ?_
      · intro variant hvariant
        obtain ⟨entry, hentry, rfl⟩ := mem_map.mp hvariant
        exact hs.allocations entry.id entry.val (Table.mem_select.mp hentry).1
      · exact fun variant hvariant channel hchannel =>
          mem_flatMap.mpr ⟨variant, hvariant, hchannel⟩
      refine answered_bind (stage_saveTriggers ⟨s.audiencesOf id, (s.variantsOf id).map (·.bare),
        []⟩ ht _) fun _ t ht => ⟨rfl, rfl, s.load id row, ?_, ht⟩
      rw [Store.reading, hrow]
      rfl

/-! ### Edits -/

inductive Edit where
  | update (request : CampaignUpdateRequest) (updatedBy : PyStr)
  | schedule (scheduledAt : Option DateTime) (tzName : PyStr) (scheduledBy task : Option PyStr)
  | activate (activatedBy : Option PyStr)
  | pause (pausedBy : Option PyStr)
  | resume (resumedBy : Option PyStr)
  | cancel (reason cancelledBy : Option PyStr)
  | delete
  | addVariant (variant : VariantDraft)
  | updateAllocations (allocations : Allocations)

structure EditRequest where
  campaignId : ℕ
  organizationId : Option PyStr
  now : Timestamp
  edit : Edit

def EditRequest.serve (r : EditRequest) : CampaignM Unit :=
  match r.edit with
  | .update request updatedBy =>
    (updateCampaign r.campaignId request updatedBy r.organizationId).void
  | .schedule scheduledAt tzName scheduledBy task =>
    (scheduleCampaign r.now r.campaignId scheduledAt tzName r.organizationId scheduledBy
      task).void
  | .activate activatedBy => (activateCampaign r.campaignId r.organizationId activatedBy).void
  | .pause pausedBy => (pauseCampaign r.now r.campaignId r.organizationId pausedBy).void
  | .resume resumedBy => (resumeCampaign r.campaignId r.organizationId resumedBy).void
  | .cancel reason cancelledBy =>
    (cancelCampaign r.now r.campaignId reason r.organizationId cancelledBy).void
  | .delete => (deleteCampaign r.now r.campaignId r.organizationId).void
  | .addVariant variant => (addVariant r.campaignId variant r.organizationId).void
  | .updateAllocations allocations =>
    (updateVariantAllocations r.campaignId allocations r.organizationId).void

theorem on_loads : Loads (Call.On id) id := ⟨trivial, trivial, fun _ => trivial, trivial⟩

theorem getCampaign_on (org : Option PyStr) : (getCampaign id org).Only (Call.On id) :=
  getCampaign_only on_loads trivial

theorem updateColumns_on (updates : CampaignUpdates) :
    (updateColumns id updates).Only (Call.On id) :=
  updateColumns_only on_loads rfl

theorem latestExecution_on (campaignId : ℕ) : (latestExecution campaignId).Only (Call.On id) :=
  Only.bind (ask_only trivial) fun _ => ask_only trivial

theorem markLatest_on (status : ExecutionStatus) (pausedAt : Option Timestamp) :
    (markLatest id status pausedAt).Only (Call.On id) := by
  refine Only.bind (latestExecution_on _) fun execution => ?_
  cases execution with
  | none => trivial
  | some execution => exact Only.bind (ask_only trivial) fun _ => trivial

theorem targetStatus_on (campaign : Campaign) :
    (targetStatus campaign).Only (Call.On id) := by
  rw [targetStatus]
  split
  · refine Only.bind (latestExecution_on _) fun execution => ?_
    cases execution <;> trivial
  · trivial

theorem updateVariants_on (entries : List (ℕ × ℚ)) :
    (updateVariants id entries).Only (Call.On id) := by
  induction entries with
  | nil => trivial
  | cons entry entries ih =>
    refine Only.bind ?_ fun _ => Only.bind ih fun _ => trivial
    exact Only.bind (ask_only rfl) fun _ => trivial

theorem updateCampaign_on (request : CampaignUpdateRequest) (updatedBy : PyStr)
    (org : Option PyStr) : (updateCampaign id request updatedBy org).Only (Call.On id) := by
  refine Only.bind (getCampaign_on org) fun campaign => ?_
  refine Only.bind only_require fun _ => Only.bind only_require fun _ => ?_
  refine Only.bind (updateColumns_on _) fun edited => ?_
  split
  · trivial
  · refine Only.bind only_require fun _ => ?_
    refine Only.bind (saveAudiences_only rfl fun _ _ => rfl) fun _ => ?_
    cases edited <;> trivial

theorem scheduleCampaign_on (now : Timestamp) (scheduledAt : Option DateTime) (tzName : PyStr)
    (org scheduledBy task : Option PyStr) :
    (scheduleCampaign now id scheduledAt tzName org scheduledBy task).Only (Call.On id) := by
  refine Only.bind (getCampaign_on org) fun campaign => ?_
  refine Only.bind only_require fun _ => Only.bind only_require fun _ => ?_
  refine Only.bind only_require fun _ => Only.bind only_require fun _ => ?_
  split
  · trivial
  · refine Only.bind only_require fun _ => Only.bind only_require fun _ => ?_
    exact updateColumns_on _

theorem activateCampaign_on (org activatedBy : Option PyStr) :
    (activateCampaign id org activatedBy).Only (Call.On id) := by
  refine Only.bind (getCampaign_on org) fun campaign => ?_
  refine Only.bind only_require fun _ => Only.bind only_require fun _ => ?_
  refine Only.bind only_require fun _ => Only.bind only_require fun _ => ?_
  exact Only.bind (updateColumns_on _) fun _ =>
    Only.bind only_require fun _ => trivial

theorem pauseCampaign_on (now : Timestamp) (org pausedBy : Option PyStr) :
    (pauseCampaign now id org pausedBy).Only (Call.On id) := by
  refine Only.bind (getCampaign_on org) fun campaign => ?_
  refine Only.bind only_require fun _ => Only.bind (updateColumns_on _) fun _ => ?_
  exact Only.bind (markLatest_on _ _) fun _ => trivial

theorem resumeCampaign_on (org resumedBy : Option PyStr) :
    (resumeCampaign id org resumedBy).Only (Call.On id) := by
  refine Only.bind (getCampaign_on org) fun campaign => ?_
  refine Only.bind only_require fun _ => ?_
  refine Only.bind (targetStatus_on campaign) fun status => ?_
  refine Only.bind (updateColumns_on _) fun _ => ?_
  exact Only.bind (markLatest_on _ _) fun _ => trivial

theorem cancelCampaign_on (now : Timestamp) (reason org cancelledBy : Option PyStr) :
    (cancelCampaign now id reason org cancelledBy).Only (Call.On id) := by
  refine Only.bind (getCampaign_on org) fun campaign => ?_
  refine Only.bind only_require fun _ => ?_
  exact Only.bind (markLatest_on _ _) fun _ => updateColumns_on _

theorem deleteCampaign_on (now : Timestamp) (org : Option PyStr) :
    (deleteCampaign now id org).Only (Call.On id) := by
  refine Only.bind (getCampaign_on org) fun campaign => ?_
  exact Only.bind only_require fun _ => ask_only rfl

theorem addVariant_on (variant : VariantDraft) (org : Option PyStr) :
    (addVariant id variant org).Only (Call.On id) := by
  refine Only.bind (getCampaign_on org) fun campaign => ?_
  refine Only.bind only_require fun _ => Only.bind only_require fun _ => ?_
  exact makeVariant_only (fun _ => rfl) fun _ _ _ => rfl

theorem updateVariantAllocations_on (allocations : Allocations) (org : Option PyStr) :
    (updateVariantAllocations id allocations org).Only (Call.On id) := by
  refine Only.bind (getCampaign_on org) fun campaign => ?_
  exact Only.bind only_require fun _ => updateVariants_on _

theorem EditRequest.on (r : EditRequest) : r.serve.Only (Call.On r.campaignId) := by
  obtain ⟨id, org, now, edit⟩ := r
  cases edit with
  | update request updatedBy => exact (updateCampaign_on request updatedBy org).void
  | schedule scheduledAt tzName scheduledBy task =>
    exact (scheduleCampaign_on now scheduledAt tzName org scheduledBy task).void
  | activate activatedBy => exact (activateCampaign_on org activatedBy).void
  | pause pausedBy => exact (pauseCampaign_on now org pausedBy).void
  | resume resumedBy => exact (resumeCampaign_on org resumedBy).void
  | cancel reason cancelledBy => exact (cancelCampaign_on now reason org cancelledBy).void
  | delete => exact (deleteCampaign_on now org).void
  | addVariant variant => exact (addVariant_on variant org).void
  | updateAllocations allocations => exact (updateVariantAllocations_on allocations org).void

abbrev EditPool (ι : Type*) :=
  Pool (CampaignApi.fallible StorageError) CampaignError Unit ι Moment

def EditPool.start {ι : Type*} (m : Moment) (edits : ι → EditRequest) : EditPool ι :=
  Pool.start m fun i => (edits i).serve

abbrev EditRun {ι : Type*} [DecidableEq ι] : EditPool ι → EditPool ι → Prop :=
  Pool.Reach handle (fun m m' => m'.1 = m.1) fun _ _ m c => m.2 ≠ .down → Own m.1 c

def Confined {ι : Type*} (edits : ι → EditRequest) (pool : EditPool ι) : Prop :=
  ∀ i, ∀ e ∈ pool.past i, ∀ y, (edits i).campaignId ≠ y →
    (handle e.2 e.1).2.1.readBack y = e.1.1.readBack y

theorem reading_handle {m : Moment} {c : Call} (hc : c.On x) (hown : m.2 ≠ .down → Own m.1 c)
    (hy : x ≠ y) : (handle c m).2.1.reading y = m.1.reading y := by
  obtain ⟨s, link⟩ := m
  cases link with
  | up => exact reading_execute hc (hown nofun) hy
  | down => rfl
  | lost => exact reading_execute hc (hown nofun) hy

theorem confined_of_run {ι : Type*} [DecidableEq ι] {m : Moment} {edits : ι → EditRequest}
    {pool : EditPool ι} (hpool : EditRun (EditPool.start m edits) pool) : Confined edits pool := by
  induction hpool with
  | start => exact fun _ _ he => absurd he not_mem_nil
  | env _ _ ih => exact ih
  | @step pool j hreach hown ih =>
    have honly := hreach.only (P := fun i => Call.On (edits i).campaignId) (fun i => (edits i).on)
    rw [Pool.advance]
    split
    · exact ih
    · exact ih
    · next c k hck =>
        have hon := honly j
        rw [hck] at hon
        intro i e he y hy
        rcases eq_or_ne i j with rfl | hij
        · simp only [Function.update_self] at he
          rcases mem_cons.mp he with rfl | he
          · exact readBack_congr (reading_handle hon.1 (hown c k hck) hy)
          · exact ih i e he y hy
        · simp only [Function.update_of_ne hij] at he
          exact ih i e he y hy

/-! ### The law -/

def cloned (s : Store) (id : ℕ) (newName org clonedBy : Option PyStr) :
    Except CampaignError Campaign × Moment :=
  (cloneCampaign id newName org clonedBy).run handle (s, .up)

theorem variants_of_reading {campaign : Campaign} (h : s.reading id = some campaign) :
    campaign.variants = s.variantsOf id := by
  obtain ⟨row, -, rfl⟩ := map_eq_some_iff.mp h
  rfl

theorem variantId_ne {v w : CampaignVariant} (hv : v ∈ s.variantsOf x) (hw : w ∈ s.variantsOf y)
    (hxy : x ≠ y) : v.variantId ≠ w.variantId := by
  obtain ⟨row, hrow, rfl⟩ := mem_map.mp hv
  obtain ⟨row', hrow', rfl⟩ := mem_map.mp hw
  obtain ⟨hget, hplace⟩ := Table.mem_select.mp hrow
  obtain ⟨hget', hplace'⟩ := Table.mem_select.mp hrow'
  intro hid
  change row.id = row'.id at hid
  rw [hid, hget'] at hget
  rw [some.inj hget] at hplace'
  exact hxy ((of_decide_eq_true hplace).symm.trans (of_decide_eq_true hplace'))

theorem bare_eq_content {variant : CampaignVariant} :
    variant.bare = variant.content ↔ variant.channels = [] := by
  constructor
  · intro h
    exact map_eq_nil_iff.mp (congrArg VariantContent.channels h).symm
  · intro h
    rw [CampaignVariant.content, h]
    rfl

theorem faithful_iff (hs : s.Valid) {newName org clonedBy : Option PyStr} {clone : Campaign}
    (hclone : (cloned s id newName org clonedBy).1 = .ok clone) :
    (Faithful s (cloned s id newName org clonedBy).2.1 id clone.campaignId ↔
      ∀ source, s.readBack id = .ok source → ∀ variant ∈ source.variants, variant.channels = []) ∧
    (cloned s id newName org clonedBy).2.1.readBack id = s.readBack id := by
  have hanswered := answered_cloneCampaign hs id newName org clonedBy
  change Answered _ (cloned s id newName org clonedBy).1 _ at hanswered
  rw [hclone] at hanswered
  obtain ⟨-, hid, source, hsource, hstage⟩ := hanswered
  change Stage _ _ _ _ (cloned s id newName org clonedBy).2.1 at hstage
  generalize (cloned s id newName org clonedBy).2.1 = t at hstage
  have hne : s.campaigns.size ≠ id := by
    rintro rfl
    rw [Store.reading, Table.get?_size] at hsource
    cases hsource
  obtain ⟨row, hrow⟩ := hstage.copy
  have hcopy : t.reading s.campaigns.size = some (t.load s.campaigns.size row) := by
    rw [Store.reading, hrow]
    rfl
  have hread : s.readBack id = .ok source := by
    rw [readBack_eq, hsource]
    rfl
  have hcopied : t.readBack clone.campaignId = .ok (t.load s.campaigns.size row) := by
    rw [hid, readBack_eq, hcopy]
    rfl
  have hcontent : (t.load s.campaigns.size row).content =
      { source.content with variants := source.variants.map (·.bare) } := by
    obtain ⟨-, -, -, haudiences, hvariants, htriggers⟩ := hstage
    exact congrArg₂ (fun f x => f x) (congrArg₂ Content.mk haudiences hvariants) htriggers
  refine ⟨⟨?_, ?_⟩, readBack_congr (hstage.others id hne)⟩
  · rintro ⟨source', copy, hsource', hcopy', hsame, -⟩ source'' hsource'' variant hvariant
    rw [hread] at hsource' hsource''
    cases hsource'
    cases hsource''
    rw [hcopied] at hcopy'
    cases hcopy'
    have hvariants := congrArg Content.variants (hcontent.symm.trans hsame)
    exact bare_eq_content.mp (map_inj_left.mp hvariants variant hvariant)
  · intro hnone
    have hnone := hnone source hread
    refine ⟨source, _, hread, hcopied, ?_, fun v hv w hw => ⟨?_, ?_⟩⟩
    · rw [hcontent, map_congr_left fun v hv => bare_eq_content.mpr (hnone v hv)]
      rfl
    · have hsame := (hstage.others id hne).trans hsource
      rw [variants_of_reading hsame] at hv
      exact variantId_ne hv hw hne.symm
    · rw [hnone v hv]
      exact fun c hc => absurd hc not_mem_nil

/-- **A copy of a campaign without channels is faithful**, and only such a copy, and the source
reads back as before. Edits of the two, in any number and statement by statement, do not show in
each other as long as every channel that is inserted is of its own campaign. -/
theorem clones_of_own (hs : s.Valid) {newName org clonedBy : Option PyStr} {clone : Campaign}
    (hclone : (cloned s id newName org clonedBy).1 = .ok clone) :
    (Faithful s (cloned s id newName org clonedBy).2.1 id clone.campaignId ↔
      ∀ source, s.readBack id = .ok source → ∀ variant ∈ source.variants, variant.channels = []) ∧
    (cloned s id newName org clonedBy).2.1.readBack id = s.readBack id ∧
    ∀ {ι : Type} [DecidableEq ι] (edits : ι → EditRequest) (pool : EditPool ι),
      EditRun (EditPool.start (cloned s id newName org clonedBy).2 edits) pool →
        Confined edits pool := by
  obtain ⟨hfaithful, hsource⟩ := faithful_iff hs hclone
  exact ⟨hfaithful, hsource, fun _ _ hpool => confined_of_run hpool⟩

/-! ### A campaign with a channel, and one without -/

def letterStore (channels : List ChannelRow) : Store :=
  { campaigns := ⟨[{ organizationId := ['o'], name := ['n'], campaignType := .scheduled
                     timezone := [], createdBy := ['c'] }]⟩
    audiences := [CampaignAudience.toRow 0
      { segmentType := .included, segmentId := some ['s'], segmentQuery := none, name := none }]
    variants := ⟨[{ campaignId := 0, name := ['v'], description := none
                    allocationPercentage := 100, isControl := false }]⟩
    channels
    triggers := []
    executions := .empty }

def textChannel : CampaignChannel :=
  { channelId := 7, channelType := .sms, smsContent := some { body := ['b'] } }

def letterCloned (channels : List ChannelRow) : Except CampaignError Campaign × Moment :=
  cloned (letterStore channels) 0 none none (some ['u'])

theorem letterStore_valid {channels : List ChannelRow}
    (hcampaign : ∀ row ∈ channels, row.campaignId < 1)
    (hunique : (channels.map (·.channelId)).Nodup) : (letterStore channels).Valid := by
  have hvariant : ∀ id, ∀ row ∈ (letterStore channels).variants.get? id,
      row = { campaignId := 0, name := ['v'], description := none
              allocationPercentage := 100, isControl := false } := by
    intro id row hrow
    exact mem_singleton.mp (mem_of_getElem? hrow)
  refine ⟨fun row hrow => ?_, fun id row hrow => ?_, hcampaign, ?_, hunique, fun id row hrow => ?_⟩
  · rw [mem_singleton.mp hrow]
    exact Nat.one_pos
  · rw [hvariant id row hrow]
    exact Nat.one_pos
  · exact fun row hrow => absurd hrow not_mem_nil
  · rw [hvariant id row hrow]
    exact ⟨10000, le_rfl, by norm_num⟩

theorem exists_channels {l : List (List CampaignChannel)}
    (h : (s.readBack 0).map (fun c => c.variants.map (·.channels)) = .ok l) :
    ∃ source, s.readBack 0 = .ok source ∧ source.variants.map (·.channels) = l := by
  cases hsource : s.readBack 0 with
  | error e =>
    rw [hsource] at h
    cases h
  | ok source =>
    rw [hsource] at h
    exact ⟨source, rfl, Except.ok.inj h⟩

/-- A copy of a campaign with a channel has none, and a variant that is added to the copy with the
id of that channel shows in the source. -/
theorem not_faithful :
    (letterStore [textChannel.toRow 0 0]).Valid ∧
    (∃ clone, (letterCloned [textChannel.toRow 0 0]).1 = .ok clone ∧
      ¬Faithful (letterStore [textChannel.toRow 0 0]) (letterCloned [textChannel.toRow 0 0]).2.1 0
        clone.campaignId) ∧
    ((letterCloned [textChannel.toRow 0 0]).2.1.readBack 0).map
        (fun c => c.variants.map fun v => v.channels.map (·.enabled)) = .ok [[true]] ∧
    (((addVariant 1 { name := ['w'], allocationPercentage := 0
                      channels := [{ textChannel with enabled := false }] } none).run handle
        (letterCloned [textChannel.toRow 0 0]).2).2.1.readBack 0).map
          (fun c => c.variants.map fun v => v.channels.map (·.enabled)) = .ok [[false]] := by
  have hvalid : (letterStore [textChannel.toRow 0 0]).Valid :=
    letterStore_valid (by decide) (by decide)
  obtain ⟨clone, hclone⟩ := exists_ok (r := (letterCloned [textChannel.toRow 0 0]).1)
    (by decide +kernel)
  refine ⟨hvalid, ⟨clone, hclone, fun hfaithful => ?_⟩, by decide +kernel, by decide +kernel⟩
  have hnone := (faithful_iff hvalid hclone).1.mp hfaithful
  obtain ⟨source, hsource, hchannels⟩ := exists_channels
    (s := letterStore [textChannel.toRow 0 0]) (l := [[textChannel]]) (by decide +kernel)
  obtain ⟨variant, hvariant, hchannel⟩ :=
    mem_map.mp (hchannels ▸ mem_singleton_self [textChannel])
  rw [hnone source hsource variant hvariant] at hchannel
  cases hchannel

def letterEdits : Fin 2 → EditRequest
  | 0 => { campaignId := 0, organizationId := none, now := 0
           edit := .update { name := some ['m'] } ['u'] }
  | 1 => { campaignId := 1, organizationId := none, now := 0
           edit := .addVariant { name := ['w'], allocationPercentage := 0
                                 channels := [textChannel] } }

def letterEdited : EditPool (Fin 2) :=
  (EditPool.start (letterCloned []).2 letterEdits).schedule handle
    ((List.range 16).flatMap fun _ => [0, 1])

/-- A copy of a campaign without channels. -/
theorem letters_cloned :
    (∃ clone, (letterCloned []).1 = .ok clone ∧
      Faithful (letterStore []) (letterCloned []).2.1 0 clone.campaignId) ∧
    (letterCloned []).2.1.readBack 0 = (letterStore []).readBack 0 ∧
    Confined letterEdits letterEdited := by
  have hvalid : (letterStore []).Valid := letterStore_valid (by decide) (by decide)
  obtain ⟨clone, hclone⟩ := exists_ok (r := (letterCloned []).1) (by decide +kernel)
  obtain ⟨hfaithful, hsource, hconfined⟩ := clones_of_own hvalid hclone
  refine ⟨⟨clone, hclone, hfaithful.mpr ?_⟩, hsource, ?_⟩
  · obtain ⟨source, hread, hchannels⟩ := exists_channels (s := letterStore []) (l := [[]])
      (by decide +kernel)
    intro source' hread' variant hvariant
    rw [hread] at hread'
    cases hread'
    have hmem : variant.channels ∈ source.variants.map (·.channels) := mem_map_of_mem hvariant
    rw [hchannels] at hmem
    exact mem_singleton.mp hmem
  · exact hconfined letterEdits letterEdited (Pool.Reach.start.schedule (by decide +kernel))

end IsaUser.Campaigns
