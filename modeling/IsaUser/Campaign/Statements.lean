import IsaUser.Campaign.Service

/-!
# What the Methods Say to the Database

Every statement that a method makes satisfies a condition if those of the repository's methods
do, `*_only`; and the methods of the repository, while the connection is up, read and write the
tables, `run_*`. What every statement keeps are the constraints of the tables, `Store.Valid`.

## Main results

* `valid_execute`: every statement keeps the constraints.
* `run_getCampaign`: what `get_campaign` returns.
-/

open IsaUser.Prog List

namespace IsaUser.Campaigns

/-! ### The statements of a method -/

section Only

variable {P : Call → Prop} {id : ℕ} {α : Type}

theorem ask_only {c : Call} (hc : P c) : (ask c).Only P := only_query (I := CampaignApi) hc

theorem orEmpty_only {p : CampaignM (List α)} (hp : p.Only P) : (orEmpty p).Only P :=
  hp.tryCatch fun _ => trivial

theorem each_only {statement : α → CampaignM Unit} {l : List α}
    (h : ∀ a ∈ l, (statement a).Only P) : (each statement l).Only P := by
  induction l with
  | nil => trivial
  | cons a l ih =>
    exact (h a mem_cons_self).bind fun _ => ih fun b hb => h b (mem_cons_of_mem a hb)

theorem whereGiven_only {save : List α → CampaignM (List α)} {l : List α} (h : (save l).Only P) :
    (whereGiven save l).Only P := by
  rw [whereGiven]
  split
  · trivial
  · exact h

/-- The queries that load what belongs to a campaign satisfy a condition. -/
structure Loads (P : Call → Prop) (campaignId : ℕ) : Prop where
  audiences : P (.selectAudiences campaignId)
  variants : P (.selectVariants campaignId)
  channels : ∀ variantId, P (.selectChannels campaignId variantId)
  triggers : P (.selectTriggers campaignId)

theorem getAudiences_only (h : P (.selectAudiences id)) : (getAudiences id).Only P :=
  orEmpty_only ((ask_only h).bind fun _ => trivial)

theorem getVariantChannels_only {variantId : ℕ} (h : P (.selectChannels id variantId)) :
    (getVariantChannels id variantId).Only P := by
  refine orEmpty_only ((ask_only h).bind fun rows => ?_)
  cases mapM ChannelRow.toChannel rows <;> trivial

theorem loadVariants_only (h : ∀ variantId, P (.selectChannels id variantId))
    (rows : List (Row VariantRow)) : (loadVariants id rows).Only P := by
  induction rows with
  | nil => trivial
  | cons row rows ih =>
    exact (getVariantChannels_only (h row.id)).bind fun _ => ih.bind fun _ => trivial

theorem getVariants_only (h : P (.selectVariants id))
    (hchannels : ∀ variantId, P (.selectChannels id variantId)) : (getVariants id).Only P :=
  orEmpty_only ((ask_only h).bind fun rows => loadVariants_only hchannels rows)

theorem getTriggers_only (h : P (.selectTriggers id)) : (getTriggers id).Only P :=
  orEmpty_only ((ask_only h).bind fun _ => trivial)

theorem loaded_only (h : Loads P id) (row : Option CampaignRow) : (loaded id row).Only P := by
  cases row with
  | none => trivial
  | some row =>
    exact (getAudiences_only h.audiences).bind fun _ =>
      (getVariants_only h.variants h.channels).bind fun _ =>
        (getTriggers_only h.triggers).bind fun _ => trivial

theorem getCampaign_only {org : Option PyStr} (h : Loads P id)
    (hselect : P (.selectCampaign id (given org))) : (getCampaign id org).Only P := by
  refine Only.bind ((ask_only hselect).bind fun row => loaded_only h row) fun campaign => ?_
  cases campaign <;> trivial

theorem updateColumns_only {updates : CampaignUpdates} (h : Loads P id)
    (hupdate : P (.updateCampaign id updates)) : (updateColumns id updates).Only P :=
  (ask_only hupdate).bind fun row => loaded_only h row

theorem saveAudiences_only {audiences : List CampaignAudience} (hdelete : P (.deleteAudiences id))
    (hinsert : ∀ audience ∈ audiences, P (.insertAudience (audience.toRow id))) :
    (saveAudiences id audiences).Only P :=
  (ask_only hdelete).bind fun _ =>
    (each_only fun audience h => ask_only (hinsert audience h)).bind fun _ => trivial

theorem saveVariant_only {variant : VariantDraft}
    (hvariant : ∀ allocation, P (.insertVariant id variant allocation))
    (hchannels : ∀ channel ∈ variant.channels, ∀ variantId,
      P (.insertChannel (channel.toRow id variantId))) : (saveVariant id variant).Only P := by
  refine (ask_only (hvariant _)).bind fun variantId => ?_
  exact (each_only fun channel h => ask_only (hchannels channel h variantId)).bind fun _ => trivial

theorem makeVariant_only {variant : VariantDraft}
    (hvariant : ∀ allocation, P (.insertVariant id variant allocation))
    (hchannels : ∀ channel ∈ variant.channels, ∀ variantId,
      P (.insertChannel (channel.toRow id variantId))) : (makeVariant id variant).Only P :=
  only_require.bind fun _ => saveVariant_only hvariant hchannels

theorem makeVariants_only {variants : List VariantDraft}
    (h : ∀ variant ∈ variants, (makeVariant id variant).Only P) :
    (makeVariants id variants).Only P := by
  induction variants with
  | nil => trivial
  | cons variant variants ih =>
    refine (h variant mem_cons_self).bind fun _ => Only.bind ?_ fun _ => trivial
    exact ih fun v hv => h v (mem_cons_of_mem variant hv)

theorem saveTriggers_only {triggers : List CampaignTrigger} (hdelete : P (.deleteTriggers id))
    (hinsert : ∀ trigger ∈ triggers,
      P (.insertTrigger { toCampaignTrigger := trigger, campaignId := id })) :
    (saveTriggers id triggers).Only P :=
  (ask_only hdelete).bind fun _ =>
    (each_only fun trigger h => ask_only (hinsert trigger h)).bind fun _ => trivial

theorem validateCampaignCreateRequest_only (request : CampaignCreateRequest) :
    (validateCampaignCreateRequest request).Only P := by
  have hvariants : (validateVariants request.variants).Only P :=
    only_require.bind fun _ => only_require.bind fun _ => only_require
  refine only_require.bind fun _ => only_require.bind fun _ =>
    only_require.bind fun _ => ?_
  split
  · exact hvariants.bind fun _ => only_require
  · simp

theorem validScheduledAt_only (now : Timestamp) (time : Option DateTime) :
    (validScheduledAt now time).Only P := by
  cases time with
  | none => trivial
  | some time => exact only_require.bind fun _ => only_require.bind fun _ => trivial

end Only

/-! ### Outcomes -/

theorem exists_ok {α : Type} {r : Except CampaignError α} (h : r.isOk = true) :
    ∃ a, r = .ok a := by
  cases r with
  | error e => cases h
  | ok a => exact ⟨a, rfl⟩

theorem exists_error {α : Type} {r : Except CampaignError α} (h : r.isOk = false) :
    ∃ e, r = .error e := by
  cases r with
  | error e => exact ⟨e, rfl⟩
  | ok a => cases h

/-! ### Reading -/

section Reading

variable (s : Store)

def Store.audiencesOf (campaignId : ℕ) : List CampaignAudience :=
  (s.audiences.filter (·.campaignId = campaignId)).map (·.toCampaignAudience)

def Store.readChannels (campaignId variantId : ℕ) : List CampaignChannel :=
  ((s.channelsOf campaignId variantId).mapM ChannelRow.toChannel).getD []

def Store.variantsOf (campaignId : ℕ) : List CampaignVariant :=
  (s.variants.select (·.campaignId = campaignId)).map fun row =>
    row.val.toVariant row.id (s.readChannels campaignId row.id)

def Store.triggersOf (campaignId : ℕ) : List CampaignTrigger :=
  (s.triggers.filter (·.campaignId = campaignId)).map (·.toCampaignTrigger)

def Store.load (campaignId : ℕ) (row : CampaignRow) : Campaign :=
  { row.toCampaign campaignId with
    audiences := s.audiencesOf campaignId
    variants := s.variantsOf campaignId
    triggers := s.triggersOf campaignId }

variable {s}

theorem run_ask {c : Call} {reply : c.Reply} {t : Store} (h : execute c s = (.ok reply, t)) :
    (ask c).run handle (s, .up) = (.ok reply, (t, .up)) := by
  have hup : handle c (s, .up) = (.ok reply, (t, .up)) := by
    change ((execute c s).1, (execute c s).2, Link.up) = _
    rw [h]
  rw [ask, query, run_call, hup]
  rfl

theorem run_ask_error {c : Call} {e : StorageError} {t : Store}
    (h : execute c s = (.error e, t)) :
    (ask c).run handle (s, .up) = (.error (.storage e), (t, .up)) := by
  have hup : handle c (s, .up) = (.error e, (t, .up)) := by
    change ((execute c s).1, (execute c s).2, Link.up) = _
    rw [h]
  rw [ask, query, run_call, hup]
  rfl

theorem run_getAudiences (id : ℕ) :
    (getAudiences id).run handle (s, .up) = (.ok (s.audiencesOf id), (s, .up)) := by
  exact run_tryCatch_of_ok (run_bind_of_ok (run_ask (c := .selectAudiences id) rfl))

theorem run_getVariantChannels (id variantId : ℕ) :
    (getVariantChannels id variantId).run handle (s, .up) =
      (.ok (s.readChannels id variantId), (s, .up)) := by
  have hask := run_bind_of_ok (f := fun rows : List ChannelRow =>
    converted (rows.mapM ChannelRow.toChannel))
    (run_ask (c := .selectChannels id variantId) (s := s) rfl)
  rw [Store.readChannels]
  cases h : (s.channelsOf id variantId).mapM ChannelRow.toChannel with
  | none =>
    rw [h] at hask
    exact run_tryCatch_of_error hask
  | some channels =>
    rw [h] at hask
    exact run_tryCatch_of_ok hask

theorem run_loadVariants (id : ℕ) (rows : List (Row VariantRow)) :
    (loadVariants id rows).run handle (s, .up) =
      (.ok (rows.map fun row => row.val.toVariant row.id (s.readChannels id row.id)),
        (s, .up)) := by
  induction rows with
  | nil => rfl
  | cons row rows ih =>
    rw [loadVariants, run_bind_of_ok (run_getVariantChannels id row.id),
      run_bind_of_ok ih]
    rfl

theorem run_getVariants (id : ℕ) :
    (getVariants id).run handle (s, .up) = (.ok (s.variantsOf id), (s, .up)) := by
  exact run_tryCatch_of_ok
    ((run_bind_of_ok (run_ask (c := .selectVariants id) rfl)).trans (run_loadVariants id _))

theorem run_getTriggers (id : ℕ) :
    (getTriggers id).run handle (s, .up) = (.ok (s.triggersOf id), (s, .up)) := by
  exact run_tryCatch_of_ok (run_bind_of_ok (run_ask (c := .selectTriggers id) rfl))

theorem run_loaded (id : ℕ) (row : Option CampaignRow) :
    (loaded id row).run handle (s, .up) = (.ok (row.map (s.load id)), (s, .up)) := by
  cases row with
  | none => rfl
  | some row =>
    rw [loaded, run_bind_of_ok (run_getAudiences id),
      run_bind_of_ok (run_getVariants id)]
    rfl

/-- What `get_campaign` returns. -/
theorem run_getCampaign (id : ℕ) (org : Option PyStr) :
    (getCampaign id org).run handle (s, .up) =
      match s.selectCampaign id (given org) with
      | none => (.error (.notFound id), (s, .up))
      | some row => (.ok (s.load id row), (s, .up)) := by
  have hselect : (selectCampaign id (given org)).run handle (s, .up) =
      (.ok ((s.selectCampaign id (given org)).map (s.load id)), (s, .up)) := by
    exact (run_bind_of_ok (run_ask (c := .selectCampaign id (given org)) rfl)).trans
      (run_loaded id _)
  rw [getCampaign, run_bind_of_ok hselect]
  cases s.selectCampaign id (given org) <;> rfl

end Reading

/-! ### The constraints of the tables -/

/-- What the tables take: rows refer to campaigns that are there, the ids of channels are unique,
and allocations are numbers from 0 to 100 with two decimals. -/
structure Store.Valid (s : Store) : Prop where
  audiences : ∀ row ∈ s.audiences, row.campaignId < s.campaigns.size
  variants : ∀ id, ∀ row ∈ s.variants.get? id, row.campaignId < s.campaigns.size
  channels : ∀ row ∈ s.channels, row.campaignId < s.campaigns.size
  triggers : ∀ row ∈ s.triggers, row.campaignId < s.campaigns.size
  unique : (s.channels.map (·.channelId)).Nodup
  allocations : ∀ id, ∀ row ∈ s.variants.get? id,
    ∃ n : ℕ, n ≤ 10000 ∧ row.allocationPercentage = n / 100

theorem allocationColumn_eq_some {x : Option ℚ} {a : ℚ} (h : allocationColumn x = some a) :
    ∃ n : ℕ, n ≤ 10000 ∧ a = n / 100 := by
  obtain ⟨hmap, hrange⟩ := Option.filter_eq_some_iff.mp h
  obtain ⟨q, -, rfl⟩ := Option.map_eq_some_iff.mp hmap
  obtain ⟨hnonneg, hle⟩ := of_decide_eq_true hrange
  have hcents : ∃ k : ℤ, decimal52 q = k / 100 := by
    rw [decimal52]
    split
    · exact ⟨_, rfl⟩
    · exact ⟨-⌊-q * 100 + 1 / 2⌋, by push_cast; ring⟩
  obtain ⟨k, hk⟩ := hcents
  rw [hk] at hnonneg hle ⊢
  have hk₀ : (0 : ℚ) ≤ k := by linarith
  have hk₁ : (k : ℚ) ≤ 10000 := by linarith
  obtain ⟨n, rfl⟩ := Int.eq_ofNat_of_zero_le (by exact_mod_cast hk₀ : (0 : ℤ) ≤ k)
  refine ⟨n, by exact_mod_cast hk₁, by simp⟩

theorem allocationColumn_float {n : ℕ} (hn : n ≤ 10000) :
    allocationColumn (float (n / 100 : ℚ)) = some (n / 100 : ℚ) := by
  have hcast : (n : ℚ) ≤ 10000 := by exact_mod_cast hn
  have hq : (0 : ℚ) ≤ n / 100 := by positivity
  obtain ⟨x, hx, hnear⟩ := exists_float_near (j := 10) hq (by omega) (by linarith)
  obtain ⟨hlow, hhigh⟩ := abs_le.mp hnear
  have hx₀ : 0 ≤ x := float_nonneg hq hx
  have hfloor : ⌊x * 100 + 1 / 2⌋ = (n : ℤ) := by
    rw [Int.floor_eq_iff]
    constructor
    · push_cast
      linarith
    · push_cast
      linarith
  have hdecimal : decimal52 x = n / 100 := by
    rw [decimal52, if_pos hx₀, hfloor]
    rfl
  rw [hx, allocationColumn, Option.map_some, hdecimal]
  exact Option.filter_eq_some_iff.mpr ⟨rfl, decide_eq_true ⟨hq, by linarith⟩⟩

section Valid

variable {s : Store}

theorem Store.Valid.referring {ρ : Type} {id : ℕ} {reply : ρ} {inserted : Store} (hs : s.Valid)
    (h : id < s.campaigns.size → inserted.Valid) : (s.referring id reply inserted).2.Valid := by
  rw [Store.referring]
  split
  · exact h ‹_›
  · exact hs

theorem Store.Valid.withCampaigns (hs : s.Valid) {campaigns : Table CampaignRow}
    (hsize : s.campaigns.size ≤ campaigns.size) : ({ s with campaigns } : Store).Valid where
  audiences row hrow := (hs.audiences row hrow).trans_le hsize
  variants id row hrow := (hs.variants id row hrow).trans_le hsize
  channels row hrow := (hs.channels row hrow).trans_le hsize
  triggers row hrow := (hs.triggers row hrow).trans_le hsize
  unique := hs.unique
  allocations := hs.allocations

theorem Store.Valid.withAudiences (hs : s.Valid) {audiences : List AudienceRow}
    (h : ∀ row ∈ audiences, row.campaignId < s.campaigns.size) :
    ({ s with audiences } : Store).Valid :=
  { hs with audiences := h }

theorem Store.Valid.withTriggers (hs : s.Valid) {triggers : List TriggerRow}
    (h : ∀ row ∈ triggers, row.campaignId < s.campaigns.size) :
    ({ s with triggers } : Store).Valid :=
  { hs with triggers := h }

theorem Store.Valid.insertVariant (hs : s.Valid) {row : VariantRow}
    (hcampaign : row.campaignId < s.campaigns.size)
    (hallocation : ∃ n : ℕ, n ≤ 10000 ∧ row.allocationPercentage = (n : ℚ) / 100) :
    ({ s with variants := s.variants.insert row } : Store).Valid := by
  have hrows : ∀ id, ∀ old ∈ (s.variants.insert row).get? id,
      old = row ∨ old ∈ s.variants.get? id := by
    intro id old hold
    rw [Table.get?_insert] at hold
    split at hold
    · exact .inl (Option.some.inj hold).symm
    · exact .inr hold
  refine { hs with variants := fun id old hold => ?_, allocations := fun id old hold => ?_ }
  · rcases hrows id old hold with rfl | hold
    · exact hcampaign
    · exact hs.variants id old hold
  · rcases hrows id old hold with rfl | hold
    · exact hallocation
    · exact hs.allocations id old hold

theorem Store.Valid.modifyVariant (hs : s.Valid) {id : ℕ} {change : VariantRow → VariantRow}
    (hcampaign : ∀ row, (change row).campaignId = row.campaignId)
    (hallocation : ∀ row : VariantRow,
      (∃ n : ℕ, n ≤ 10000 ∧ row.allocationPercentage = (n : ℚ) / 100) →
        ∃ n : ℕ, n ≤ 10000 ∧ (change row).allocationPercentage = (n : ℚ) / 100) :
    ({ s with variants := s.variants.modify id change } : Store).Valid := by
  have hrows : ∀ j, ∀ row ∈ (s.variants.modify id change).get? j,
      ∃ old ∈ s.variants.get? j, row = old ∨ row = change old := by
    intro j row hrow
    rw [Table.get?_modify] at hrow
    split at hrow
    · obtain ⟨old, hold, rfl⟩ := Option.map_eq_some_iff.mp hrow
      exact ⟨old, hold, .inr rfl⟩
    · exact ⟨row, hrow, .inl rfl⟩
  refine { hs with variants := fun j row hrow => ?_, allocations := fun j row hrow => ?_ }
  · obtain ⟨old, hold, rfl | rfl⟩ := hrows j row hrow
    · exact hs.variants j _ hold
    · rw [hcampaign]
      exact hs.variants j old hold
  · obtain ⟨old, hold, rfl | rfl⟩ := hrows j row hrow
    · exact hs.allocations j _ hold
    · exact hallocation old (hs.allocations j old hold)

theorem Store.Valid.upsertChannel (hs : s.Valid) {row : ChannelRow}
    (hcampaign : row.campaignId < s.campaigns.size) : (s.upsertChannel row).Valid := by
  rw [Store.upsertChannel]
  split
  · next hexists =>
      refine { hs with channels := fun new hnew => ?_, unique := ?_ }
      · obtain ⟨old, hold, rfl⟩ := mem_map.mp hnew
        split
        · exact hs.channels old hold
        · exact hs.channels old hold
      · have hsame : (s.channels.map fun old =>
            if old.channelId = row.channelId then old.overwrite row else old).map (·.channelId) =
            s.channels.map (·.channelId) := by
          rw [map_map]
          refine map_congr_left fun old _ => ?_
          dsimp only [Function.comp]
          split <;> rfl
        rw [hsame]
        exact hs.unique
  · next hnew =>
      refine { hs with channels := fun new hmem => ?_, unique := ?_ }
      · rcases mem_append.mp hmem with hold | hlast
        · exact hs.channels new hold
        · rw [mem_singleton.mp hlast]
          exact hcampaign
      · rw [map_append, nodup_append]
        refine ⟨hs.unique, nodup_singleton _, fun a ha b hb hab => ?_⟩
        obtain ⟨old, hold, rfl⟩ := mem_map.mp ha
        rw [map_singleton, mem_singleton] at hb
        exact hnew ⟨old, hold, hab.trans hb⟩

theorem valid_execute (hs : s.Valid) (c : Call) : (execute c s).2.Valid := by
  cases c with
  | insertCampaign row => exact hs.withCampaigns (by simp)
  | updateCampaign id updates => exact hs.withCampaigns (by simp)
  | deleteCampaign id now => exact hs.withCampaigns (by simp)
  | deleteAudiences id =>
    exact hs.withAudiences fun row hrow => hs.audiences row (mem_of_mem_filter hrow)
  | insertAudience row =>
    refine hs.referring fun hcampaign => hs.withAudiences fun new hnew => ?_
    rcases mem_append.mp hnew with hold | hlast
    · exact hs.audiences new hold
    · rwa [mem_singleton.mp hlast]
  | deleteTriggers id =>
    exact hs.withTriggers fun row hrow => hs.triggers row (mem_of_mem_filter hrow)
  | insertTrigger row =>
    refine hs.referring fun hcampaign => hs.withTriggers fun new hnew => ?_
    rcases mem_append.mp hnew with hold | hlast
    · exact hs.triggers new hold
    · rwa [mem_singleton.mp hlast]
  | insertVariant id variant allocation =>
    rw [execute]
    split
    · exact hs
    · next a ha =>
        exact hs.referring fun hcampaign =>
          hs.insertVariant hcampaign (allocationColumn_eq_some ha)
  | updateVariant id variantId allocation =>
    rw [execute]
    dsimp only
    split
    · split <;> exact hs
    · next a ha =>
        refine hs.modifyVariant (fun row => ?_) fun row hrow => ?_
        · split <;> rfl
        · split
          · exact allocationColumn_eq_some ha
          · exact hrow
  | insertChannel row =>
    rw [execute]
    split
    · exact hs.referring fun hcampaign => hs.upsertChannel hcampaign
    · exact hs
  | updateExecution id status pausedAt => exact { hs with }
  | _ => exact hs

end Valid

end IsaUser.Campaigns
