import IsaUser.Campaign.Statements
import Mathlib.Data.List.TakeWhile

/-!
# Allocations

`_validate_variants` and `update_variant_allocations` compare the sum of the numbers of a request
with 100. What is stored is another matter: the column rounds, a variant that is added comes on
top, and an update may name some variants and not others. `schedule_campaign` looks only whether
there are variants.
-/

open IsaUser.Prog List Option

namespace IsaUser.Campaigns

open Table Store

/-! ### Requests -/

inductive VariantRequest where
  | create (now : Timestamp) (request : CampaignCreateRequest) (organizationId createdBy : PyStr)
  | add (campaignId : ℕ) (variant : VariantDraft) (organizationId : Option PyStr)
  | updateAllocations (campaignId : ℕ) (allocations : Allocations) (organizationId : Option PyStr)
  | clone (campaignId : ℕ) (newName organizationId clonedBy : Option PyStr)
  | schedule (now : Timestamp) (campaignId : ℕ) (scheduledAt : Option DateTime) (tzName : PyStr)
      (organizationId scheduledBy task : Option PyStr)

def VariantRequest.serve : VariantRequest → CampaignM Unit
  | create now request organizationId createdBy =>
    (createCampaign now request organizationId createdBy).void
  | add id variant organizationId => (addVariant id variant organizationId).void
  | updateAllocations id allocations organizationId =>
    (updateVariantAllocations id allocations organizationId).void
  | clone id newName organizationId clonedBy =>
    (cloneCampaign id newName organizationId clonedBy).void
  | schedule now id scheduledAt tzName organizationId scheduledBy task =>
    (scheduleCampaign now id scheduledAt tzName organizationId scheduledBy task).void

def Store.after (s : Store) (r : VariantRequest) : Store := (r.serve.run handle (s, .up)).2.1

def served : List VariantRequest → Store
  | [] => .empty
  | r :: past => (served past).after r

/-! ### The law -/

def Store.allocated (s : Store) (campaignId : ℕ) : ℚ :=
  ((s.variantsOf campaignId).map (·.allocationPercentage)).sum

def AddsUp (total : ℚ) : Prop := |total - 100| ≤ 1 / 100
  deriving Decidable

structure Bounded (s : Store) (campaignId : ℕ) : Prop where
  range : ∀ variant ∈ s.variantsOf campaignId,
    0 ≤ variant.allocationPercentage ∧ variant.allocationPercentage ≤ 100
  controls : ((s.variantsOf campaignId).filter (·.isControl)).length ≤ 1
  count : (s.variantsOf campaignId).length ≤ maxVariants

structure Partition (s : Store) (campaignId : ℕ) : Prop extends Bounded s campaignId where
  sum : AddsUp (s.allocated campaignId)

/-! ### The condition -/

@[irreducible] def column (a : ℚ) : Option ℚ := allocationColumn (float a)

def rounded (a : ℚ) : ℚ := (column a).getD 0

def Store.HasVariant (s : Store) (campaignId variantId : ℕ) : Prop :=
  ∃ row ∈ s.variants.get? variantId, row.campaignId = campaignId
  deriving Decidable

def Store.allocation (s : Store) (campaignId variantId : ℕ) : ℚ :=
  ((s.variants.get? variantId).filter (·.campaignId = campaignId)).elim 0 (·.allocationPercentage)

/-- A variant passes the checks of `add_variant`. -/
def Admits (s : Store) (campaignId : ℕ) (variant : VariantDraft) (organizationId : Option PyStr) :
    Prop :=
  (s.selectCampaign campaignId (given organizationId)).isSome ∧
    (s.variantsOf campaignId).length < maxVariants ∧
      (variant.isControl = true → ∀ v ∈ s.variantsOf campaignId, v.isControl = false) ∧
        variant.Valid

instance (s : Store) (id : ℕ) (variant : VariantDraft) (org : Option PyStr) :
    Decidable (Admits s id variant org) :=
  inferInstanceAs (Decidable (_ ∧ _ ∧ (_ → ∀ v ∈ s.variantsOf id, _) ∧ _))

/-- Allocations pass the checks of `update_variant_allocations`. -/
def Passes (s : Store) (campaignId : ℕ) (allocations : Allocations)
    (organizationId : Option PyStr) : Prop :=
  (s.selectCampaign campaignId (given organizationId)).isSome ∧
    ¬OffHundred (allocations.entries.map Prod.snd).sum

instance (s : Store) (id : ℕ) (allocations : Allocations) (org : Option PyStr) :
    Decidable (Passes s id allocations org) :=
  inferInstanceAs (Decidable (_ ∧ _))

/-- An update that names every variant that has an allocation, with numbers that the column takes
and that still make 100 when they are rounded. -/
structure Covers (s : Store) (campaignId : ℕ) (entries : List (ℕ × ℚ)) : Prop where
  taken : ∀ e ∈ entries, s.HasVariant campaignId e.1 → (column e.2).isSome
  named : (entries.map fun e => s.allocation campaignId e.1).sum = s.allocated campaignId
  sum : AddsUp ((entries.filter fun e => s.HasVariant campaignId e.1).map fun e => rounded e.2).sum

theorem covers_iff {s : Store} {id : ℕ} {entries : List (ℕ × ℚ)} :
    ((∀ e ∈ entries, s.HasVariant id e.1 → (column e.2).isSome) ∧
      (entries.map fun e => s.allocation id e.1).sum = s.allocated id ∧
        AddsUp ((entries.filter fun e => s.HasVariant id e.1).map fun e => rounded e.2).sum) ↔
      Covers s id entries := by
  constructor
  · intro h
    exact ⟨h.1, h.2.1, h.2.2⟩
  · intro h
    exact ⟨h.taken, h.named, h.sum⟩

instance (s : Store) (id : ℕ) (entries : List (ℕ × ℚ)) : Decidable (Covers s id entries) :=
  decidable_of_iff _ covers_iff

def Copyable (variant : CampaignVariant) : Prop := ∀ channel ∈ variant.channels, channel.HasContent
  deriving Decidable

/-- The last request that wrote variants of the campaign was a creation with variants that make 100
when they are rounded (up to the first that its model refuses), a variant that makes up what was
missing, an update that covers all, or a clone of a campaign in order that could be copied. -/
def InOrder : List VariantRequest → ℕ → Prop
  | [], _ => True
  | r :: past, campaignId =>
    let s := served past
    match r with
    | .create _ request _ _ =>
      if campaignId = s.campaigns.size then
        let made := request.drafts.takeWhile fun v => v.Valid
        made = [] ∨ AddsUp (made.map fun v => rounded v.allocationPercentage).sum
      else InOrder past campaignId
    | .add id variant org =>
      if campaignId = id ∧ Admits s id variant org then
        AddsUp (s.allocated id + rounded variant.allocationPercentage)
      else InOrder past campaignId
    | .updateAllocations id allocations org =>
      if campaignId = id ∧ Passes s id allocations org then Covers s id allocations.entries
      else InOrder past campaignId
    | .clone id _ _ _ =>
      if campaignId = s.campaigns.size then
        InOrder past id ∧ ∀ variant ∈ s.variantsOf id, Copyable variant
      else InOrder past campaignId
    | .schedule _ _ _ _ _ _ _ => InOrder past campaignId

instance InOrder.decidable : (past : List VariantRequest) → (id : ℕ) → Decidable (InOrder past id)
  | [], _ => .isTrue trivial
  | .create _ request _ _ :: past, id =>
    have := InOrder.decidable past id
    inferInstanceAs (Decidable (if id = (served past).campaigns.size then
      (request.drafts.takeWhile fun v => v.Valid) = [] ∨ AddsUp _ else InOrder past id))
  | .add campaignId variant org :: past, id =>
    have := InOrder.decidable past id
    inferInstanceAs (Decidable (if id = campaignId ∧ Admits (served past) campaignId variant org
      then AddsUp _ else InOrder past id))
  | .updateAllocations campaignId allocations org :: past, id =>
    have := InOrder.decidable past id
    inferInstanceAs (Decidable (if id = campaignId ∧ Passes (served past) campaignId allocations
      org then Covers _ _ _ else InOrder past id))
  | .clone campaignId _ _ _ :: past, id =>
    have := InOrder.decidable past id
    have := InOrder.decidable past campaignId
    inferInstanceAs (Decidable (if id = (served past).campaigns.size then
      InOrder past campaignId ∧ ∀ variant ∈ (served past).variantsOf campaignId, _
        else InOrder past id))
  | .schedule _ _ _ _ _ _ _ :: past, id => InOrder.decidable past id

/-- An update, entry by entry: each that is written before one is refused leaves the allocation of
the variant that it names. -/
def Harmless (s : Store) (campaignId : ℕ) : List (ℕ × ℚ) → Prop
  | [] => True
  | (variantId, a) :: rest =>
    match column a with
    | none => s.HasVariant campaignId variantId ∨ Harmless s campaignId rest
    | some x => (s.HasVariant campaignId variantId → s.allocation campaignId variantId = x) ∧
        Harmless s campaignId rest

def Unwritten (s : Store) (campaignId : ℕ) (allocations : Allocations)
    (organizationId : Option PyStr) : Prop :=
  Passes s campaignId allocations organizationId → Harmless s campaignId allocations.entries

/-! ### What is written -/

def VariantDraft.stored (campaignId : ℕ) (variant : VariantDraft) : VariantRow :=
  variant.toRow campaignId (rounded variant.allocationPercentage)

def allocate (s : Store) (campaignId : ℕ) : List (ℕ × ℚ) → Table VariantRow → Table VariantRow
  | [], t => t
  | (variantId, a) :: rest, t =>
    match column a with
    | none => if s.HasVariant campaignId variantId then t else allocate s campaignId rest t
    | some x => allocate s campaignId rest (t.modify variantId fun row =>
      if row.campaignId = campaignId then { row with allocationPercentage := x } else row)

section Written

variable {s t : Store} {n : ℕ} {α β : Type} {made : List VariantDraft} {p : CampaignM α}
  {f : α → CampaignM β} {u : Store}

structure Beside (s t : Store) : Prop where
  variants : t.variants = s.variants
  campaigns : t.campaigns.size = s.campaigns.size

theorem Beside.refl (s : Store) : Beside s s := ⟨rfl, rfl⟩

theorem Beside.trans (h : Beside s t) (h' : Beside t u) : Beside s u :=
  ⟨h'.variants.trans h.variants, h'.campaigns.trans h.campaigns⟩

def Succeeds (p : CampaignM α) (s : Store) : Prop :=
  p.wp handle (fun r m => (∃ a, r = .ok a) ∧ m.2 = .up ∧ Beside s m.1) (s, .up)

theorem Succeeds.wp_bind {Q : Except CampaignError β → Moment → Prop} (hp : Succeeds p s)
    (hf : ∀ a t, Beside s t → (f a).wp handle Q (t, .up)) : (p >>= f).wp handle Q (s, .up) := by
  refine Prog.wp_bind.mpr (Prog.wp_mono hp ?_)
  rintro _ ⟨t, link⟩ ⟨⟨a, rfl⟩, rfl, ht⟩
  exact hf a t ht

theorem Succeeds.bind (hp : Succeeds p s) (hf : ∀ a t, Beside s t → Succeeds (f a) t) :
    Succeeds (p >>= f) s :=
  hp.wp_bind fun a t ht => Prog.wp_mono (hf a t ht) fun _ _ ⟨hr, hup, hm⟩ =>
    ⟨hr, hup, ht.trans hm⟩

theorem succeeds_ret (a : α) : Succeeds (ret a) s := ⟨⟨a, rfl⟩, rfl, .refl s⟩

theorem wp_ask_of_ok {c : Call} {reply : c.Reply} (h : execute c s = (.ok reply, t))
    {Q : Except CampaignError c.Reply → Moment → Prop} (hQ : Q (.ok reply) (t, .up)) :
    (ask c).wp handle Q (s, .up) := by
  rw [wp, run_ask h]
  exact hQ

theorem succeeds_ask {c : Call} {reply : c.Reply} (h : execute c s = (.ok reply, t))
    (ht : Beside s t) : Succeeds (ask c) s :=
  wp_ask_of_ok h ⟨⟨reply, rfl⟩, rfl, ht⟩

theorem succeeds_each {statement : α → CampaignM Unit} {l : List α}
    (h : ∀ a t, Beside s t → Succeeds (statement a) t) : Succeeds (each statement l) s := by
  have hfrom : ∀ t, Beside s t → Succeeds (each statement l) t := by
    induction l with
    | nil => exact fun t _ => succeeds_ret ()
    | cons a l ih => exact fun t ht => (h a t ht).bind fun _ u hu => ih u (ht.trans hu)
  exact hfrom s (.refl s)

theorem succeeds_whereGiven {save : List α → CampaignM (List α)} {l : List α}
    (h : Succeeds (save l) s) : Succeeds (whereGiven save l) s := by
  rw [whereGiven]
  split
  · exact succeeds_ret []
  · exact h

theorem referring_of_lt {ρ : Type} {reply : ρ} {inserted : Store} (hn : n < s.campaigns.size) :
    s.referring n reply inserted = (.ok reply, inserted) := if_pos hn

theorem succeeds_saveAudiences (hn : n < s.campaigns.size) (audiences : List CampaignAudience) :
    Succeeds (saveAudiences n audiences) s := by
  refine Succeeds.bind (succeeds_ask (c := .deleteAudiences n) rfl ⟨rfl, rfl⟩) fun _ t ht => ?_
  refine Succeeds.bind (succeeds_each fun audience u hu => ?_) fun _ _ _ => succeeds_ret _
  refine succeeds_ask (c := .insertAudience (audience.toRow n)) (referring_of_lt ?_) ⟨rfl, rfl⟩
  rwa [hu.campaigns, ht.campaigns]

theorem succeeds_saveTriggers (hn : n < s.campaigns.size) (triggers : List CampaignTrigger) :
    Succeeds (saveTriggers n triggers) s := by
  refine Succeeds.bind (succeeds_ask (c := .deleteTriggers n) rfl ⟨rfl, rfl⟩) fun _ t ht => ?_
  refine Succeeds.bind (succeeds_each fun trigger u hu => ?_) fun _ _ _ => succeeds_ret _
  refine succeeds_ask (c := .insertTrigger { toCampaignTrigger := trigger, campaignId := n })
    (referring_of_lt ?_) ⟨rfl, rfl⟩
  rwa [hu.campaigns, ht.campaigns]

theorem succeeds_channels {variantId : ℕ} (hn : n < s.campaigns.size)
    (hvariant : variantId < s.variants.size) (channels : List CampaignChannel) :
    Succeeds (each (fun channel => ask (.insertChannel (channel.toRow n variantId))) channels) s :=
    by
  refine succeeds_each fun channel t ht => ?_
  refine succeeds_ask (c := .insertChannel (channel.toRow n variantId))
    ((if_pos ?_).trans (referring_of_lt ?_)) ⟨rfl, rfl⟩
  · rwa [ht.variants]
  · rwa [ht.campaigns]

theorem column_def (a : ℚ) : column a = allocationColumn (float a) := by
  unfold column
  rfl

theorem rounded_of_column {a x : ℚ} (h : column a = some x) : rounded a = x := by
  rw [rounded, h, getD_some]

theorem column_of_mem {a : ℚ} (h₀ : 0 ≤ a) (h₁ : a ≤ 100) : column a = some (rounded a) := by
  have h100 : float 100 = some 100 := by decide +kernel
  obtain ⟨x, hx⟩ := exists_float_of_le h₀ h₁ h100
  have hx₀ : 0 ≤ x := float_nonneg h₀ hx
  have hx₁ : x ≤ 100 := float_mono h₀ h₁ hx h100
  have hcolumn : column a = some (decimal52 x) := by
    rw [column_def, hx]
    refine filter_eq_some_iff.mpr ⟨rfl, decide_eq_true ?_⟩
    rw [decimal52, if_pos hx₀]
    have hlow : 0 ≤ ⌊x * 100 + 1 / 2⌋ := Int.floor_nonneg.mpr (by linarith)
    have hhigh : ⌊x * 100 + 1 / 2⌋ ≤ 10000 := by
      refine Int.le_of_lt_add_one (Int.floor_lt.mpr ?_)
      linarith
    have hlow' : (0 : ℚ) ≤ ⌊x * 100 + 1 / 2⌋ := by exact_mod_cast hlow
    have hhigh' : (⌊x * 100 + 1 / 2⌋ : ℚ) ≤ 10000 := by exact_mod_cast hhigh
    constructor
    · linarith
    · linarith
  rw [hcolumn, rounded_of_column hcolumn]

theorem wp_makeVariant (hn : n < s.campaigns.size) (variant : VariantDraft) :
    (makeVariant n variant).wp handle (fun r m => m.2 = .up ∧
      m.1.campaigns.size = s.campaigns.size ∧ if variant.Valid then
        (∃ made, r = .ok made) ∧ m.1.variants = s.variants.insert (variant.stored n)
      else (∃ e, r = .error e) ∧ m.1.variants = s.variants) (s, .up) := by
  refine wp_require_bind (fun hvalid => ?_) fun hinvalid => ?_
  · have hinsert : execute (.insertVariant n variant (float variant.allocationPercentage)) s =
        (.ok s.variants.size, { s with variants := s.variants.insert (variant.stored n) }) := by
      rw [execute, ← column_def, column_of_mem hvalid.2.2.1 hvalid.2.2.2]
      exact referring_of_lt hn
    refine Prog.wp_bind.mpr (wp_ask_of_ok hinsert ?_)
    have hmade : s.variants.size < (s.variants.insert (variant.stored n)).size := by simp
    refine (succeeds_channels (s := { s with variants := s.variants.insert (variant.stored n) }) hn
      hmade _).wp_bind fun _ t ht => ?_
    exact ⟨rfl, ht.campaigns, (if_pos hvalid).mpr ⟨⟨_, rfl⟩, ht.variants⟩⟩
  · exact ⟨rfl, rfl, (if_neg hinvalid).mpr ⟨⟨_, rfl⟩, rfl⟩⟩

def Wrote (s : Store) (n : ℕ) (made : List VariantDraft) (t : Store) : Prop :=
  t.campaigns.size = s.campaigns.size ∧ t.variants = s.variants.insertAll (made.map (·.stored n))

theorem Wrote.nil (ht : Beside s t) : Wrote s n [] t :=
  ⟨ht.campaigns, ht.variants.trans (insertAll_nil _).symm⟩

theorem Wrote.of_insert {variant : VariantDraft}
    (ht : t.campaigns.size = s.campaigns.size ∧ t.variants = s.variants.insert (variant.stored n))
    (h : Wrote t n made u) : Wrote s n (variant :: made) u := by
  refine ⟨h.1.trans ht.1, h.2.trans ?_⟩
  rw [ht.2, map_cons, insertAll_cons]

theorem wp_makeVariants (hn : n < s.campaigns.size) (variants : List VariantDraft) :
    (makeVariants n variants).wp handle (fun _ m => m.2 = .up ∧
      Wrote s n (variants.takeWhile fun v => v.Valid) m.1) (s, .up) := by
  induction variants generalizing s with
  | nil => exact ⟨rfl, .nil (.refl s)⟩
  | cons variant variants ih =>
    refine Prog.wp_bind.mpr (Prog.wp_mono (wp_makeVariant hn variant) ?_)
    rintro r ⟨t, link⟩ ⟨rfl, hcampaigns, hmade⟩
    by_cases hvalid : variant.Valid
    · rw [if_pos hvalid] at hmade
      obtain ⟨⟨made, rfl⟩, hvariants⟩ := hmade
      have htake : (variant :: variants).takeWhile (fun v => v.Valid) =
          variant :: variants.takeWhile fun v => v.Valid :=
        takeWhile_cons_of_pos (decide_eq_true hvalid)
      rw [htake]
      refine Prog.wp_bind.mpr (Prog.wp_mono (ih (by rwa [hcampaigns])) ?_)
      rintro (_ | _) ⟨u, link⟩ ⟨rfl, hu⟩
      · exact ⟨rfl, .of_insert ⟨hcampaigns, hvariants⟩ hu⟩
      · exact ⟨rfl, .of_insert ⟨hcampaigns, hvariants⟩ hu⟩
    · rw [if_neg hvalid] at hmade
      obtain ⟨⟨e, rfl⟩, hvariants⟩ := hmade
      have htake : (variant :: variants).takeWhile (fun v => v.Valid) = [] :=
        takeWhile_cons_of_neg (by simpa using hvalid)
      rw [htake]
      exact ⟨rfl, .nil ⟨hvariants, hcampaigns⟩⟩

theorem wp_cloneVariants (hn : n < s.campaigns.size) (variants : List CampaignVariant) :
    (cloneVariants n variants).wp handle (fun _ m => m.2 = .up ∧
      Wrote s n ((variants.takeWhile fun v => Copyable v ∧ v.toVariantDraft.Valid).map
        (·.toVariantDraft)) m.1) (s, .up) := by
  induction variants generalizing s with
  | nil => exact ⟨rfl, .nil (.refl s)⟩
  | cons variant variants ih =>
    refine wp_require_bind (fun hcopyable => ?_) fun hnot => ?_
    · refine Prog.wp_bind.mpr (Prog.wp_mono (wp_makeVariant hn variant.toVariantDraft) ?_)
      rintro r ⟨t, link⟩ ⟨rfl, hcampaigns, hmade⟩
      by_cases hvalid : variant.toVariantDraft.Valid
      · rw [if_pos hvalid] at hmade
        obtain ⟨⟨made, rfl⟩, hvariants⟩ := hmade
        have htake : (variant :: variants).takeWhile (fun v => Copyable v ∧
            v.toVariantDraft.Valid) = variant :: variants.takeWhile fun v => Copyable v ∧
              v.toVariantDraft.Valid :=
          takeWhile_cons_of_pos (decide_eq_true ⟨hcopyable, hvalid⟩)
        rw [htake]
        refine Prog.wp_bind.mpr (Prog.wp_mono (ih (by rwa [hcampaigns])) ?_)
        rintro (_ | _) ⟨u, link⟩ ⟨rfl, hu⟩
        · exact ⟨rfl, .of_insert ⟨hcampaigns, hvariants⟩ hu⟩
        · exact ⟨rfl, .of_insert ⟨hcampaigns, hvariants⟩ hu⟩
      · rw [if_neg hvalid] at hmade
        obtain ⟨⟨e, rfl⟩, hvariants⟩ := hmade
        have htake : (variant :: variants).takeWhile (fun v => Copyable v ∧
            v.toVariantDraft.Valid) = [] := takeWhile_cons_of_neg (by simp [hvalid])
        rw [htake]
        exact ⟨rfl, .nil ⟨hvariants, hcampaigns⟩⟩
    · have hnot : ¬Copyable variant := hnot
      have htake : (variant :: variants).takeWhile (fun v => Copyable v ∧
          v.toVariantDraft.Valid) = [] := takeWhile_cons_of_neg (by simp [hnot])
      rw [htake]
      exact ⟨rfl, .nil (.refl s)⟩

theorem wp_validate_bind {request : CampaignCreateRequest} {f : Unit → CampaignM α}
    {Q : Except CampaignError α → Moment → Prop}
    (hok : request.variants.length ≤ maxVariants →
      (request.variants.filter (·.isControl)).length ≤ 1 → (f ()).wp handle Q (s, .up))
    (herror : ∀ e, Q (.error e) (s, .up)) :
    (validateCampaignCreateRequest request >>= f).wp handle Q (s, .up) := by
  refine Prog.wp_bind.mpr ?_
  refine wp_require_bind (fun _ => ?_) fun _ => herror _
  refine wp_require_bind (fun _ => ?_) fun _ => herror _
  refine wp_require_bind (fun _ => ?_) fun _ => herror _
  split
  · refine Prog.wp_bind.mpr ?_
    refine wp_require_bind (fun hcount => ?_) fun _ => herror _
    refine wp_require_bind (fun _ => ?_) fun _ => herror _
    refine wp_require.mpr ⟨fun hcontrols => ?_, fun _ => herror _⟩
    exact wp_require.mpr ⟨fun _ => hok hcount hcontrols, fun _ => herror _⟩
  · next hnone =>
      have hnone : request.variants = [] := not_not.mp hnone
      refine wp_require.mpr ⟨fun _ => hok ?_ ?_, fun _ => herror _⟩
      · rw [hnone]
        exact Nat.zero_le _
      · rw [hnone]
        exact Nat.zero_le _

theorem wp_validScheduledAt_bind {now : Timestamp} {time : Option DateTime}
    {f : Option Timestamp → CampaignM α} {Q : Except CampaignError α → Moment → Prop}
    (hok : ∀ scheduledAt, (f scheduledAt).wp handle Q (s, .up))
    (herror : ∀ e, Q (.error e) (s, .up)) :
    (validScheduledAt now time >>= f).wp handle Q (s, .up) := by
  refine Prog.wp_bind.mpr ?_
  cases time with
  | none => exact hok none
  | some time =>
    refine wp_require_bind (fun _ => ?_) fun _ => herror _
    exact wp_require_bind (fun _ => hok _) fun _ => herror _

def WroteNew (s : Store) (made : List VariantDraft) (t : Store) : Prop :=
  t.campaigns.size = s.campaigns.size + 1 ∧
    t.variants = s.variants.insertAll (made.map (·.stored s.campaigns.size))

theorem wp_saveCampaign {row : CampaignRow} {Q : Except CampaignError ℕ → Moment → Prop}
    (hQ : Q (.ok s.campaigns.size) ({ s with campaigns := s.campaigns.insert row }, .up)) :
    (saveCampaign row).wp handle Q (s, .up) :=
  wp_ask_of_ok (c := .insertCampaign row) rfl hQ

theorem WroteNew.of_wrote {row : CampaignRow}
    (ht : Beside { s with campaigns := s.campaigns.insert row } t)
    (h : Wrote t s.campaigns.size made u) : WroteNew s made u := by
  refine ⟨h.1.trans (ht.campaigns.trans (size_insert _ _)), h.2.trans ?_⟩
  rw [ht.variants]

theorem Succeeds.wp_after {P : Store → Prop}
    (hp : p.wp handle (fun _ m => m.2 = .up ∧ P m.1) (s, .up)) (hf : ∀ a t, P t → Succeeds (f a) t)
    (hP : ∀ {t u}, Beside t u → P t → P u) :
    (p >>= f).wp handle (fun _ m => m.2 = .up ∧ P m.1) (s, .up) := by
  refine Prog.wp_bind.mpr (Prog.wp_mono hp ?_)
  rintro (e | a) ⟨t, link⟩ ⟨rfl, ht⟩
  · exact ⟨rfl, ht⟩
  · exact Prog.wp_mono (hf a t ht) fun _ _ ⟨_, hup, hbeside⟩ => ⟨hup, hP hbeside ht⟩

theorem WroteNew.beside (hu : Beside t u) (h : WroteNew s made t) : WroteNew s made u :=
  ⟨hu.campaigns.trans h.1, hu.variants.trans h.2⟩

theorem WroteNew.lt (h : WroteNew s made t) : s.campaigns.size < t.campaigns.size := by
  rw [h.1]
  exact Nat.lt_succ_self _

theorem succeeds_newTriggers (h : WroteNew s made t) (triggers : List CampaignTrigger)
    (campaign : List CampaignTrigger → Campaign) :
    Succeeds (do
      let triggers ← whereGiven (saveTriggers s.campaigns.size) triggers
      return campaign triggers) t :=
  (succeeds_whereGiven (succeeds_saveTriggers h.lt triggers)).bind fun _ _ _ => succeeds_ret _

theorem drafts_bounded {request : CampaignCreateRequest}
    (hcount : request.variants.length ≤ maxVariants)
    (hcontrols : (request.variants.filter (·.isControl)).length ≤ 1) :
    request.drafts.length ≤ maxVariants ∧ (request.drafts.filter (·.isControl)).length ≤ 1 := by
  rw [CampaignCreateRequest.drafts]
  split
  · exact ⟨hcount, hcontrols⟩
  · split
    · exact ⟨(by decide : 1 ≤ 5), Nat.zero_le 1⟩
    · exact ⟨Nat.zero_le _, Nat.zero_le _⟩

/-- What a creation has written: nothing, or the variants of the request, which are within bounds,
up to the first that is not valid. -/
def Created (s : Store) (request : CampaignCreateRequest) (t : Store) : Prop :=
  Beside s t ∨ (request.drafts.length ≤ maxVariants ∧
    (request.drafts.filter (·.isControl)).length ≤ 1) ∧
      WroteNew s (request.drafts.takeWhile fun v => v.Valid) t

theorem wp_createCampaign (now : Timestamp) (request : CampaignCreateRequest)
    (org createdBy : PyStr) : (createCampaign now request org createdBy).wp handle
      (fun _ m => m.2 = .up ∧ Created s request m.1) (s, .up) := by
  have hrefused : ∀ e : CampaignError, Link.up = .up ∧ Created s request s :=
    fun _ => ⟨rfl, .inl (.refl s)⟩
  refine wp_validate_bind (fun hcount hcontrols => ?_) hrefused
  refine wp_require_bind (fun _ => ?_) fun _ => hrefused .invalidModel
  refine wp_validScheduledAt_bind (fun scheduledAt => ?_) hrefused
  refine Prog.wp_bind.mpr (wp_saveCampaign ?_)
  have hlt : s.campaigns.size <
      (s.campaigns.insert (request.toRow org createdBy scheduledAt)).size := by
    simp
  refine (succeeds_whereGiven (succeeds_saveAudiences hlt _)).wp_bind fun _ t ht => ?_
  refine Prog.wp_mono (Succeeds.wp_after
    (Prog.wp_mono (wp_makeVariants (by rwa [ht.campaigns]) request.drafts)
      fun _ _ ⟨hup, hwrote⟩ => ⟨hup, .of_wrote ht hwrote⟩)
    (fun _ u hu => succeeds_newTriggers hu _ _) fun hbeside h => h.beside hbeside) ?_
  exact fun _ _ ⟨hup, hnew⟩ => ⟨hup, .inr ⟨drafts_bounded hcount hcontrols, hnew⟩⟩

def Store.copied (s : Store) (campaignId : ℕ) : List VariantDraft :=
  ((s.variantsOf campaignId).takeWhile fun v => Copyable v ∧ v.toVariantDraft.Valid).map
    (·.toVariantDraft)

theorem wp_getCampaign_bind {id : ℕ} {org : Option PyStr} {f : Campaign → CampaignM α}
    {Q : Except CampaignError α → Moment → Prop}
    (hok : ∀ row, s.selectCampaign id (given org) = some row →
      (f (s.load id row)).wp handle Q (s, .up))
    (herror : s.selectCampaign id (given org) = none → Q (.error (.notFound id)) (s, .up)) :
    (getCampaign id org >>= f).wp handle Q (s, .up) := by
  refine Prog.wp_bind.mpr ?_
  rw [wp, run_getCampaign]
  cases hselect : s.selectCampaign id (given org) with
  | none => exact herror hselect
  | some row => exact hok row hselect

theorem wp_cloneCampaign (id : ℕ) (newName org clonedBy : Option PyStr) :
    (cloneCampaign id newName org clonedBy).wp handle (fun _ m => m.2 = .up ∧
      (Beside s m.1 ∨ WroteNew s (s.copied id) m.1)) (s, .up) := by
  have hrefused : Link.up = .up ∧ (Beside s s ∨ WroteNew s (s.copied id) s) :=
    ⟨rfl, .inl (.refl s)⟩
  refine wp_getCampaign_bind (fun source _ => ?_) fun _ => hrefused
  refine wp_require_bind (fun _ => ?_) fun _ => hrefused
  cases clonedBy with
  | none => exact hrefused
  | some createdBy =>
    refine Prog.wp_bind.mpr (wp_saveCampaign ?_)
    refine (succeeds_whereGiven (succeeds_saveAudiences (by simp) _)).wp_bind fun _ t ht => ?_
    refine Prog.wp_mono (Succeeds.wp_after (P := WroteNew s (s.copied id))
      (Prog.wp_mono (wp_cloneVariants (by rw [ht.campaigns]; simp) _)
        fun _ _ ⟨hup, hwrote⟩ => ⟨hup, .of_wrote ht hwrote⟩)
      (fun _ u hu => succeeds_newTriggers hu _ _) fun hbeside h => h.beside hbeside) ?_
    exact fun _ _ ⟨hup, hnew⟩ => ⟨hup, .inr hnew⟩

theorem lt_of_selectCampaign {id : ℕ} {org : Option PyStr} {row : CampaignRow}
    (h : s.selectCampaign id org = some row) : id < s.campaigns.size :=
  lt_size_of_get? (filter_eq_some_iff.mp h).1

theorem wp_addVariant (id : ℕ) (variant : VariantDraft) (org : Option PyStr) :
    (addVariant id variant org).wp handle (fun _ m => m.2 = .up ∧
      if Admits s id variant org then Wrote s id [variant] m.1 else Beside s m.1) (s, .up) := by
  have hrefused (h : ¬Admits s id variant org) : Link.up = .up ∧
      if Admits s id variant org then Wrote s id [variant] s else Beside s s :=
    ⟨rfl, (if_neg h).mpr (.refl s)⟩
  refine wp_getCampaign_bind (fun row hselect => ?_) fun hnone => hrefused fun hadmits => ?_
  · refine wp_require_bind (fun hcount => ?_) fun h => hrefused fun hadmits => h hadmits.2.1
    refine wp_require_bind (fun hcontrol => ?_)
      fun h => hrefused fun hadmits => h hadmits.2.2.1
    refine Prog.wp_mono (wp_makeVariant (lt_of_selectCampaign hselect) variant) ?_
    rintro r ⟨t, link⟩ ⟨hup, hcampaigns, hmade⟩
    refine ⟨hup, ?_⟩
    by_cases hvalid : variant.Valid
    · rw [if_pos hvalid] at hmade
      have hadmits : Admits s id variant org :=
        ⟨by rw [hselect]; rfl, hcount, hcontrol, hvalid⟩
      rw [if_pos hadmits]
      exact .of_insert ⟨hcampaigns, hmade.2⟩ (.nil (.refl t))
    · rw [if_neg hvalid] at hmade
      rw [if_neg fun hadmits : Admits s id variant org => hvalid hadmits.2.2.2]
      exact ⟨hmade.2, hcampaigns⟩
  · rw [Admits, hnone] at hadmits
    cases hadmits.1

theorem hasVariant_modify (id variantId : ℕ) (x : ℚ) (v : ℕ) :
    ({ t with variants := t.variants.modify variantId fun row =>
      if row.campaignId = id then { row with allocationPercentage := x } else row } :
        Store).HasVariant id v ↔ t.HasVariant id v := by
  simp only [HasVariant, get?_modify]
  split
  · cases t.variants.get? v with
    | none => simp
    | some row =>
      simp only [map_some, mem_some_iff, exists_eq_left']
      split
      · rfl
      · rfl
  · rfl

theorem execute_updateVariant (id v : ℕ) (number : Option ℚ) :
    (∃ e, allocationColumn number = none ∧ t.HasVariant id v ∧
      execute (.updateVariant id v number) t = (.error e, t)) ∨
    (allocationColumn number = none ∧ ¬t.HasVariant id v ∧
      execute (.updateVariant id v number) t = (.ok none, t)) ∨
    ∃ x reply, allocationColumn number = some x ∧
      execute (.updateVariant id v number) t = (.ok reply,
        { t with variants := t.variants.modify v fun row =>
            if row.campaignId = id then { row with allocationPercentage := x } else row }) := by
  rw [execute]
  cases hnumber : allocationColumn number with
  | none =>
    by_cases hv : t.HasVariant id v
    · exact .inl ⟨_, rfl, hv, if_pos hv⟩
    · exact .inr (.inl ⟨rfl, hv, if_neg hv⟩)
  | some x => exact .inr (.inr ⟨x, _, rfl, rfl⟩)

theorem wp_ask_of_error {c : Call} {e : StorageError} (h : execute c s = (.error e, t))
    {Q : Except CampaignError c.Reply → Moment → Prop} (hQ : Q (.error (.storage e)) (t, .up)) :
    (ask c).wp handle Q (s, .up) := by
  rw [wp, run_ask_error h]
  exact hQ

theorem wp_updateVariants {id : ℕ} {entries : List (ℕ × ℚ)}
    (hsame : ∀ v, t.HasVariant id v ↔ s.HasVariant id v) :
    (updateVariants id entries).wp handle (fun _ m => m.2 = .up ∧
      m.1.campaigns.size = t.campaigns.size ∧
        m.1.variants = allocate s id entries t.variants) (t, .up) := by
  induction entries generalizing t with
  | nil => exact ⟨rfl, rfl, rfl⟩
  | cons entry entries ih =>
    obtain ⟨v, a⟩ := entry
    rw [allocate, column_def]
    obtain ⟨e, hnone, hv, hexecute⟩ | ⟨hnone, hv, hexecute⟩ | ⟨x, reply, hsome, hexecute⟩ :=
      execute_updateVariant (t := t) id v (float a)
    · rw [hnone]
      refine Prog.wp_bind.mpr (Prog.wp_bind.mpr (wp_ask_of_error hexecute ⟨rfl, rfl, ?_⟩))
      exact (if_pos ((hsame v).mp hv)).symm
    · rw [hnone]
      refine Prog.wp_bind.mpr (Prog.wp_bind.mpr (wp_ask_of_ok hexecute ?_))
      have hv : ¬s.HasVariant id v := fun h => hv ((hsame v).mpr h)
      simp only [if_neg hv]
      refine wp_ret.mpr (Prog.wp_bind.mpr (Prog.wp_mono (ih hsame) ?_))
      rintro (_ | _) ⟨u, link⟩ h
      · exact h
      · exact h
    · rw [hsome]
      refine Prog.wp_bind.mpr (Prog.wp_bind.mpr (wp_ask_of_ok hexecute ?_))
      have hsame' := fun w => (hasVariant_modify (t := t) id v x w).trans (hsame w)
      refine wp_ret.mpr (Prog.wp_bind.mpr (Prog.wp_mono (ih hsame') ?_))
      rintro (_ | _) ⟨u, link⟩ h
      · exact h
      · exact h

theorem wp_updateVariantAllocations (id : ℕ) (allocations : Allocations) (org : Option PyStr) :
    (updateVariantAllocations id allocations org).wp handle (fun _ m => m.2 = .up ∧
      m.1.campaigns.size = s.campaigns.size ∧ m.1.variants =
        if Passes s id allocations org then allocate s id allocations.entries s.variants
        else s.variants) (s, .up) := by
  refine wp_getCampaign_bind (fun row hselect => ?_) fun hnone => ⟨rfl, rfl, (if_neg ?_).symm⟩
  · refine wp_require_bind (fun hsum => ?_) fun hsum => ⟨rfl, rfl, (if_neg ?_).symm⟩
    · have hpasses : Passes s id allocations org := ⟨by rw [hselect]; rfl, hsum⟩
      rw [if_pos hpasses]
      exact wp_updateVariants fun _ => Iff.rfl
    · exact fun hpasses => hsum hpasses.2
  · intro hpasses
    rw [Passes, hnone] at hpasses
    cases hpasses.1

def Call.Besides (c : Call) : Prop := ∀ s, Beside s (execute c s).2

theorem beside_of_only (hp : p.Only Call.Besides) :
    p.wp handle (fun _ m => m.2 = .up ∧ Beside s m.1) (s, .up) := by
  refine hp.run_keeps (J := fun m : Moment => m.2 = .up ∧ Beside s m.1) ⟨rfl, .refl s⟩ ?_
  rintro c ⟨t, link⟩ hc ⟨rfl, ht⟩
  exact ⟨rfl, ht.trans (hc t)⟩

theorem besides_loads (id : ℕ) : Loads Call.Besides id :=
  ⟨fun _ => .refl _, fun _ => .refl _, fun _ _ => .refl _, fun _ => .refl _⟩

theorem scheduleCampaign_besides (now : Timestamp) (id : ℕ) (scheduledAt : Option DateTime)
    (tzName : PyStr) (org scheduledBy task : Option PyStr) :
    (scheduleCampaign now id scheduledAt tzName org scheduledBy task).Only Call.Besides := by
  refine Only.bind (getCampaign_only (besides_loads id) fun _ => .refl _) fun campaign => ?_
  refine Only.bind only_require fun _ => Only.bind only_require fun _ => ?_
  refine Only.bind only_require fun _ => Only.bind only_require fun _ => ?_
  split
  · trivial
  · refine Only.bind only_require fun _ => Only.bind only_require fun _ => ?_
    exact updateColumns_only (besides_loads id) fun s => ⟨rfl, size_modify _ _ _⟩

theorem variants_of_scheduled {now : Timestamp} {id : ℕ} {scheduledAt : Option DateTime}
    {tzName : PyStr} {org scheduledBy task : Option PyStr} {campaign : Option Campaign}
    (h : ((scheduleCampaign now id scheduledAt tzName org scheduledBy task).run handle
      (s, .up)).1 = .ok campaign) : s.variantsOf id ≠ [] := by
  have herror : ∀ e : CampaignError, ∀ a : Option Campaign,
      Except.error e = Except.ok a → s.variantsOf id ≠ [] := fun _ _ h => by cases h
  have hwp : (scheduleCampaign now id scheduledAt tzName org scheduledBy task).wp handle
      (fun r _ => ∀ a, r = .ok a → s.variantsOf id ≠ []) (s, .up) := by
    refine wp_getCampaign_bind (fun row _ => ?_) fun _ => herror _
    refine wp_require_bind (fun _ => ?_) fun _ => herror _
    refine wp_require_bind (fun _ => ?_) fun _ => herror _
    refine wp_require_bind (fun _ => ?_) fun _ => herror _
    refine wp_require_bind (fun hvariants => ?_) fun _ => herror _
    exact wp_of_forall fun _ _ _ _ => hvariants
  exact hwp campaign h

end Written

/-! ### Sums over the variants of a campaign -/

section Sums

variable {M : Type*} [AddCommMonoid M] {s : Store} {t : Table VariantRow} {c n : ℕ} {v : ℕ}
  {entries : List (ℕ × ℚ)} {x : ℚ}

def sumOf (t : Table VariantRow) (campaignId : ℕ) (g : VariantRow → M) : M :=
  t.sumBy fun row => if row.campaignId = campaignId then g row else 0

theorem sum_variantsOf {f : CampaignVariant → M} {g : VariantRow → M}
    (h : ∀ id channels row, f (VariantRow.toVariant id channels row) = g row) :
    ((s.variantsOf c).map f).sum = sumOf s.variants c g := by
  rw [variantsOf, List.map_map, sumOf]
  have hrows := sumBy_select s.variants (fun row => row.campaignId = c) g
  simp only [decide_eq_true_eq] at hrows
  rw [← hrows]
  exact congrArg sum (map_congr_left fun row _ => h _ _ _)

theorem allocated_eq : s.allocated c = sumOf s.variants c (·.allocationPercentage) :=
  sum_variantsOf fun _ _ _ => rfl

theorem length_eq_sum {α : Type} (l : List α) : l.length = (l.map fun _ => 1).sum := by simp

theorem length_filter_eq_sum {α : Type} (p : α → Bool) (l : List α) :
    (l.filter p).length = (l.map fun a => if p a then 1 else 0).sum := by
  induction l with
  | nil => rfl
  | cons a l ih =>
    rw [filter_cons, map_cons, sum_cons, ← ih]
    split
    · rw [length_cons, Nat.add_comm]
    · rw [Nat.zero_add]

theorem count_eq : (s.variantsOf c).length = sumOf s.variants c fun _ => 1 :=
  (length_eq_sum _).trans (sum_variantsOf fun _ _ _ => rfl)

theorem controls_eq : ((s.variantsOf c).filter (·.isControl)).length =
    sumOf s.variants c fun row => if row.isControl then 1 else 0 :=
  (length_filter_eq_sum _ _).trans (sum_variantsOf fun _ _ _ => rfl)

theorem sumOf_insertAll (made : List VariantDraft) (g : VariantRow → M) :
    sumOf (t.insertAll (made.map (·.stored n))) c g =
      sumOf t c g + if n = c then (made.map fun v => g (v.stored n)).sum else 0 := by
  rw [sumOf, sumBy_insertAll, List.map_map]
  congr 1
  split
  · next hn =>
      refine congrArg sum (map_congr_left fun v _ => ?_)
      exact if_pos hn
  · next hn =>
      refine sum_eq_zero fun x hx => ?_
      obtain ⟨v, -, rfl⟩ := mem_map.mp hx
      exact if_neg hn

theorem sumBy_allocate {g : VariantRow → M}
    (hg : ∀ row x, row.campaignId = c → g { row with allocationPercentage := x } = g row)
    (entries : List (ℕ × ℚ)) : (allocate s c entries t).sumBy g = t.sumBy g := by
  induction entries generalizing t with
  | nil => rfl
  | cons entry entries ih =>
    obtain ⟨v, a⟩ := entry
    rw [allocate]
    cases column a with
    | none =>
      dsimp only
      split
      · rfl
      · exact ih
    | some x =>
      refine ih.trans (sumBy_modify_of_eq _ _ fun row => ?_)
      split
      · next hrow => exact hg row x hrow
      · rfl

def allocatedTo (t : Table VariantRow) (campaignId variantId : ℕ) : ℚ :=
  ((t.get? variantId).filter (·.campaignId = campaignId)).elim 0 (·.allocationPercentage)

def HasRow (t : Table VariantRow) (campaignId variantId : ℕ) : Prop :=
  ∃ row ∈ t.get? variantId, row.campaignId = campaignId

theorem allocatedTo_of_not (h : ¬HasRow t c v) : allocatedTo t c v = 0 := by
  rw [allocatedTo]
  cases hrow : t.get? v with
  | none => rfl
  | some row =>
    have hne : row.campaignId ≠ c := fun hc => h ⟨row, hrow, hc⟩
    rw [filter_some, if_neg (by simpa using hne)]
    rfl

theorem allocatedTo_of_get? {row : VariantRow} (hrow : t.get? v = some row)
    (hc : row.campaignId = c) : allocatedTo t c v = row.allocationPercentage := by
  rw [allocatedTo, hrow, filter_some, if_pos (by simpa using hc)]
  rfl

abbrev setAllocation (t : Table VariantRow) (campaignId variantId : ℕ) (x : ℚ) :
    Table VariantRow :=
  t.modify variantId fun row =>
    if row.campaignId = campaignId then { row with allocationPercentage := x } else row

theorem hasRow_setAllocation {w : ℕ} : HasRow (setAllocation t c v x) c w ↔ HasRow t c w :=
  hasVariant_modify (t := { Store.empty with variants := t }) c v x w

theorem setAllocation_of_not (h : ¬HasRow t c v) : setAllocation t c v x = t :=
  modify_eq_self fun row hrow => if_neg fun hc => h ⟨row, hrow, hc⟩

theorem allocatedTo_setAllocation {w : ℕ} (h : v ≠ w) :
    allocatedTo (setAllocation t c v x) c w = allocatedTo t c w := by
  rw [allocatedTo, get?_modify_ne h, allocatedTo]

theorem sumOf_setAllocation (h : HasRow t c v) :
    sumOf (setAllocation t c v x) c (·.allocationPercentage) =
      sumOf t c (·.allocationPercentage) + (x - allocatedTo t c v) := by
  obtain ⟨row, hrow, hc⟩ := h
  rw [sumOf, sumBy_modify hrow, sumOf, allocatedTo_of_get? hrow hc]
  simp only [hc, if_pos]

theorem sumOf_allocate (hsame : ∀ v, HasRow t c v ↔ s.HasVariant c v)
    (htaken : ∀ e ∈ entries, s.HasVariant c e.1 → (column e.2).isSome)
    (hunique : (entries.map Prod.fst).Nodup) :
    sumOf (allocate s c entries t) c (·.allocationPercentage) =
      sumOf t c (·.allocationPercentage) +
        ((entries.filter fun e => s.HasVariant c e.1).map fun e => rounded e.2).sum -
          (entries.map fun e => allocatedTo t c e.1).sum := by
  induction entries generalizing t with
  | nil => simp [allocate]
  | cons entry entries ih =>
    obtain ⟨v, a⟩ := entry
    obtain ⟨hv, hunique⟩ := nodup_cons.mp hunique
    have htaken' := fun e he => htaken e (mem_cons_of_mem _ he)
    rw [allocate, map_cons, sum_cons]
    by_cases hhas : s.HasVariant c v
    · obtain ⟨x, hx⟩ := isSome_iff_exists.mp (htaken (v, a) mem_cons_self hhas)
      have hrest : (entries.map fun e => allocatedTo (setAllocation t c v x) c e.1) =
          entries.map fun e => allocatedTo t c e.1 :=
        map_congr_left fun e he => allocatedTo_setAllocation fun hve =>
          hv (mem_map.mpr ⟨e, he, hve.symm⟩)
      have hfilter : ((v, a) :: entries).filter (fun e => s.HasVariant c e.1) =
          (v, a) :: entries.filter fun e => s.HasVariant c e.1 :=
        filter_cons_of_pos (decide_eq_true hhas)
      rw [hx, hfilter, map_cons, sum_cons, rounded_of_column hx]
      have hstep := ih (t := setAllocation t c v x)
        (fun w => hasRow_setAllocation.trans (hsame w)) htaken' hunique
      rw [hrest, sumOf_setAllocation ((hsame v).mpr hhas)] at hstep
      refine hstep.trans ?_
      ring
    · have hfilter : ((v, a) :: entries).filter (fun e => s.HasVariant c e.1) =
          entries.filter fun e => s.HasVariant c e.1 :=
        filter_cons_of_neg (by simpa using hhas)
      have hnot : ¬HasRow t c v := fun h => hhas ((hsame v).mp h)
      rw [hfilter, allocatedTo_of_not hnot, zero_add]
      cases column a with
      | none =>
        simp only [if_neg hhas]
        exact ih hsame htaken' hunique
      | some x =>
        have hstep := ih hsame htaken' hunique
        simpa only [setAllocation_of_not hnot] using hstep

theorem get?_allocate (hv : v ∉ entries.map Prod.fst) :
    (allocate s c entries t).get? v = t.get? v := by
  induction entries generalizing t with
  | nil => rfl
  | cons entry entries ih =>
    obtain ⟨w, a⟩ := entry
    obtain ⟨hne, hrest⟩ := not_or.mp fun h => hv (mem_cons.mpr h)
    rw [allocate]
    cases column a with
    | none =>
      dsimp only
      split
      · rfl
      · exact ih hrest
    | some x => exact (ih hrest).trans (get?_modify_ne (Ne.symm hne) _ _)

theorem get?_setAllocation :
    (setAllocation s.variants c v x).get? v = s.variants.get? v ↔
      (s.HasVariant c v → s.allocation c v = x) := by
  constructor
  · rintro h ⟨row, hrow, hc⟩
    rw [get?_modify_self hrow, hrow, if_pos hc] at h
    have hx := congrArg VariantRow.allocationPercentage (some.inj h)
    exact (allocatedTo_of_get? hrow hc).trans hx.symm
  · intro h
    cases hrow : s.variants.get? v with
    | none => rw [get?_modify, if_pos rfl, hrow, map_none]
    | some row =>
      rw [get?_modify_self hrow]
      by_cases hc : row.campaignId = c
      · rw [if_pos hc, ← h ⟨row, hrow, hc⟩]
        exact congrArg some (congrArg (fun x => { row with allocationPercentage := x })
          (allocatedTo_of_get? hrow hc))
      · rw [if_neg hc]

theorem setAllocation_eq_self (h : (setAllocation t c v x).get? v = t.get? v) :
    setAllocation t c v x = t := by
  refine modify_eq_self fun row hrow => ?_
  rw [get?_modify_self hrow, hrow] at h
  exact some.inj h

theorem allocate_eq_iff (hunique : (entries.map Prod.fst).Nodup) :
    allocate s c entries s.variants = s.variants ↔ Harmless s c entries := by
  induction entries with
  | nil => exact iff_of_true rfl trivial
  | cons entry entries ih =>
    obtain ⟨v, a⟩ := entry
    obtain ⟨hv, hunique⟩ := nodup_cons.mp hunique
    rw [allocate, Harmless]
    cases column a with
    | none =>
      by_cases hhas : s.HasVariant c v
      · simp [hhas]
      · simpa [hhas] using ih hunique
    | some x =>
      constructor
      · intro h
        have hget : (setAllocation s.variants c v x).get? v = s.variants.get? v :=
          (get?_allocate hv).symm.trans (congrArg (fun t : Table VariantRow => t.get? v) h)
        refine ⟨get?_setAllocation.mp hget, (ih hunique).mp ?_⟩
        exact (congrArg (allocate s c entries) (setAllocation_eq_self hget)).symm.trans h
      · rintro ⟨hself, hrest⟩
        have hsame := setAllocation_eq_self (get?_setAllocation.mpr hself)
        exact (congrArg (allocate s c entries) hsame).trans ((ih hunique).mpr hrest)

end Sums

/-! ### Runs -/

section Runs

variable {s t : Store} {c n : ℕ}

def VariantRow.Named (row : VariantRow) : Prop :=
  (row.name ≠ [] ∧ row.name.length ≤ 100) ∧
    ∀ description ∈ row.description, description.length ≤ 500

structure Counted (t : Table VariantRow) : Prop where
  count : ∀ c, sumOf t c (fun _ => 1) ≤ maxVariants
  controls : ∀ c, sumOf t c (fun row => if row.isControl then 1 else 0) ≤ 1
  named : ∀ v, ∀ row ∈ t.get? v, row.Named

def Ordered (t : Table VariantRow) (campaignId : ℕ) : Prop :=
  sumOf t campaignId (fun _ => 1) = 0 ∨ AddsUp (sumOf t campaignId (·.allocationPercentage))

theorem get?_insertAll {t : Table VariantRow} {rows : List VariantRow} {v : ℕ} {row : VariantRow}
    (h : (t.insertAll rows).get? v = some row) : t.get? v = some row ∨ row ∈ rows := by
  rw [get?, insertAll, getElem?_append] at h
  split at h
  · exact .inl h
  · exact .inr (mem_of_getElem? h)

theorem named_stored {variant : VariantDraft} (h : variant.Valid) : (variant.stored n).Named :=
  ⟨h.1, h.2.1⟩

theorem Counted.insertAll {t : Table VariantRow} (ht : Counted t) {made : List VariantDraft}
    (hcount : sumOf t n (fun _ => 1) + made.length ≤ maxVariants)
    (hcontrols : sumOf t n (fun row => if row.isControl then 1 else 0) +
      (made.filter (·.isControl)).length ≤ 1)
    (hvalid : ∀ v ∈ made, v.Valid) : Counted (t.insertAll (made.map (·.stored n))) := by
  refine ⟨fun c => ?_, fun c => ?_, fun v row hrow => ?_⟩
  · rw [sumOf_insertAll]
    split
    · next hn =>
        subst hn
        rwa [← length_eq_sum]
    · exact ht.count c
  · rw [sumOf_insertAll]
    split
    · next hn =>
        subst hn
        rw [length_filter_eq_sum] at hcontrols
        exact hcontrols
    · exact ht.controls c
  · rcases get?_insertAll hrow with hold | hnew
    · exact ht.named v row hold
    · obtain ⟨variant, hvariant, rfl⟩ := mem_map.mp hnew
      exact named_stored (hvalid variant hvariant)

theorem Ordered.insertAll_of_ne {t : Table VariantRow} (ht : Ordered t c)
    (made : List VariantDraft) (hn : n ≠ c) : Ordered (t.insertAll (made.map (·.stored n))) c := by
  rw [Ordered, sumOf_insertAll, sumOf_insertAll, if_neg hn, if_neg hn, add_zero, add_zero]
  exact ht

theorem named_allocate {t : Table VariantRow} (ht : ∀ v, ∀ row ∈ t.get? v, row.Named)
    (entries : List (ℕ × ℚ)) : ∀ v, ∀ row ∈ (allocate s n entries t).get? v, row.Named := by
  induction entries generalizing t with
  | nil => exact ht
  | cons entry entries ih =>
    obtain ⟨w, a⟩ := entry
    rw [allocate]
    cases column a with
    | none =>
      dsimp only
      split
      · exact ht
      · exact ih ht
    | some x =>
      refine ih fun v row hrow => ?_
      rw [get?_modify] at hrow
      split at hrow
      · obtain ⟨old, hold, rfl⟩ := map_eq_some_iff.mp hrow
        split
        · exact ht v old hold
        · exact ht v old hold
      · exact ht v row hrow

theorem Counted.allocate {t : Table VariantRow} (ht : Counted t) (entries : List (ℕ × ℚ)) :
    Counted (allocate s n entries t) where
  count c := (sumBy_allocate (fun _ _ _ => rfl) entries).trans_le (ht.count c)
  controls c := (sumBy_allocate (fun _ _ _ => rfl) entries).trans_le (ht.controls c)
  named := named_allocate ht.named entries

theorem Ordered.allocate_of_ne {t : Table VariantRow} (ht : Ordered t c) (entries : List (ℕ × ℚ))
    (hn : n ≠ c) : Ordered (allocate s n entries t) c := by
  have hsum : sumOf (allocate s n entries t) c (·.allocationPercentage) =
      sumOf t c (·.allocationPercentage) :=
    sumBy_allocate (fun row x hrow => by rw [if_neg (hrow.trans_ne hn), if_neg (hrow.trans_ne hn)])
      entries
  have hcount : sumOf (allocate s n entries t) c (fun _ => 1) = sumOf t c (fun _ => 1) :=
    sumBy_allocate (fun _ _ _ => rfl) entries
  rw [Ordered, hsum, hcount]
  exact ht

theorem sumOf_of_size_le {M : Type*} [AddCommMonoid M] (hs : s.Valid) (hc : s.campaigns.size ≤ c)
    (g : VariantRow → M) : sumOf s.variants c g = 0 :=
  sumBy_eq_zero fun id row hrow => if_neg fun h => by
    have hlt := hs.variants id row hrow
    omega

theorem valid_after (hs : s.Valid) (r : VariantRequest) : (s.after r).Valid := by
  refine (only_of_forall r.serve (P := fun _ => True) fun _ => trivial).run_keeps
    (J := fun m : Moment => m.1.Valid) hs ?_
  rintro c ⟨t, link⟩ - ht
  cases link with
  | up => exact valid_execute ht c
  | down => exact ht
  | lost => exact valid_execute ht c

structure Kept (past : List VariantRequest) : Prop where
  valid : (served past).Valid
  counted : Counted (served past).variants
  ordered : ∀ c, InOrder past c → Ordered (served past).variants c

theorem not_mem_empty {v : ℕ} {row : VariantRow} : row ∉ empty.variants.get? v := by
  exact not_mem_none row

theorem valid_empty : empty.Valid where
  audiences _ h := absurd h not_mem_nil
  variants _ _ h := absurd h not_mem_empty
  channels _ h := absurd h not_mem_nil
  triggers _ h := absurd h not_mem_nil
  unique := nodup_nil
  allocations _ _ h := (not_mem_empty h).elim

theorem kept_nil : Kept [] where
  valid := valid_empty
  counted := ⟨fun _ => Nat.zero_le _, fun _ => Nat.zero_le _, fun _ _ h => absurd h not_mem_empty⟩
  ordered _ _ := .inl rfl

theorem of_wp_void {α : Type} {p : CampaignM α} {P : Store → Prop}
    (h : p.wp handle (fun _ m => m.2 = .up ∧ P m.1) (s, .up)) :
    P (p.void.run handle (s, .up)).2.1 :=
  (wp_void (Q := fun _ (m : Moment) => P m.1)).mpr (Prog.wp_mono h fun _ _ hm => hm.2)

variable {past : List VariantRequest}

theorem Kept.counted_new (h : Kept past) {made : List VariantDraft}
    (hcount : made.length ≤ maxVariants) (hcontrols : (made.filter (·.isControl)).length ≤ 1)
    (hvalid : ∀ v ∈ made, v.Valid) :
    Counted ((served past).variants.insertAll
      (made.map (·.stored (served past).campaigns.size))) := by
  refine h.counted.insertAll ?_ ?_ hvalid
  · rwa [sumOf_of_size_le h.valid le_rfl, zero_add]
  · rwa [sumOf_of_size_le h.valid le_rfl, zero_add]

theorem Kept.ordered_new (h : Kept past) {made : List VariantDraft}
    (hmade : made = [] ∨ AddsUp (made.map fun v => rounded v.allocationPercentage).sum) :
    Ordered ((served past).variants.insertAll
      (made.map (·.stored (served past).campaigns.size))) (served past).campaigns.size := by
  rw [Ordered, sumOf_insertAll, sumOf_insertAll, sumOf_of_size_le h.valid le_rfl,
    sumOf_of_size_le h.valid le_rfl, if_pos rfl, if_pos rfl, zero_add, zero_add]
  rcases hmade with rfl | hsum
  · exact .inl rfl
  · exact .inr hsum

theorem Kept.ordered_beside (h : Kept past) (ht : Beside (served past) t) (hc : InOrder past c) :
    Ordered t.variants c := by
  rw [ht.variants]
  exact h.ordered c hc

theorem Kept.create (h : Kept past) (now : Timestamp) (request : CampaignCreateRequest)
    (org createdBy : PyStr) : Kept (.create now request org createdBy :: past) := by
  have hvalid := valid_after h.valid (.create now request org createdBy)
  have hcreated : Created (served past) request (served (.create now request org createdBy :: past))
    := of_wp_void (wp_createCampaign now request org createdBy)
  have hmade : ∀ v ∈ request.drafts.takeWhile (fun v => v.Valid), v.Valid := fun v hv =>
    of_decide_eq_true (mem_takeWhile_imp (p := fun v : VariantDraft => decide v.Valid) hv)
  refine ⟨hvalid, ?_, fun c hc => ?_⟩
  · obtain hbeside | ⟨⟨hcount, hcontrols⟩, -, hvariants⟩ := hcreated
    · rw [hbeside.variants]
      exact h.counted
    · rw [hvariants]
      have hsub := takeWhile_sublist (l := request.drafts) fun v => decide v.Valid
      exact h.counted_new (hsub.length_le.trans hcount)
        ((hsub.filter _).length_le.trans hcontrols) hmade
  · rw [InOrder] at hc
    split at hc
    · next hnew =>
        obtain hbeside | ⟨-, -, hvariants⟩ := hcreated
        · rw [hbeside.variants, hnew]
          exact .inl (sumOf_of_size_le h.valid le_rfl _)
        · rw [hvariants, hnew]
          exact h.ordered_new hc
    · next hold =>
        obtain hbeside | ⟨-, -, hvariants⟩ := hcreated
        · exact h.ordered_beside hbeside hc
        · rw [hvariants]
          exact (h.ordered c hc).insertAll_of_ne _ (Ne.symm hold)

theorem Kept.valid_of_mem (h : Kept past) {variant : CampaignVariant}
    (hv : variant ∈ (served past).variantsOf c) : variant.toVariantDraft.Valid := by
  obtain ⟨row, hrow, rfl⟩ := mem_map.mp hv
  have hget := (mem_select.mp hrow).1
  obtain ⟨k, hk, hvalue⟩ := h.valid.allocations row.id row.val hget
  obtain ⟨hname, hdescription⟩ := h.counted.named row.id row.val hget
  have hk' : (k : ℚ) ≤ 10000 := by exact_mod_cast hk
  refine ⟨hname, hdescription, ?_, ?_⟩
  · change 0 ≤ row.val.allocationPercentage
    rw [hvalue]
    positivity
  · change row.val.allocationPercentage ≤ 100
    linarith

theorem Kept.rounded_of_mem (h : Kept past) {variant : CampaignVariant}
    (hv : variant ∈ (served past).variantsOf c) :
    rounded variant.allocationPercentage = variant.allocationPercentage := by
  obtain ⟨row, hrow, rfl⟩ := mem_map.mp hv
  obtain ⟨k, hk, hvalue⟩ := h.valid.allocations row.id row.val (mem_select.mp hrow).1
  refine rounded_of_column ?_
  change column row.val.allocationPercentage = some row.val.allocationPercentage
  rw [column_def, hvalue]
  exact allocationColumn_float hk

theorem Kept.clone (h : Kept past) (id : ℕ) (newName org clonedBy : Option PyStr) :
    Kept (.clone id newName org clonedBy :: past) := by
  have hvalid := valid_after h.valid (.clone id newName org clonedBy)
  have hcloned : Beside (served past) (served (.clone id newName org clonedBy :: past)) ∨
      WroteNew (served past) ((served past).copied id)
        (served (.clone id newName org clonedBy :: past)) :=
    of_wp_void (P := fun t => Beside (served past) t ∨
      WroteNew (served past) ((served past).copied id) t) (wp_cloneCampaign id newName org clonedBy)
  have hsub : ((served past).copied id).Sublist
      (((served past).variantsOf id).map (·.toVariantDraft)) :=
    (takeWhile_sublist _).map _
  refine ⟨hvalid, ?_, fun c hc => ?_⟩
  · obtain hbeside | ⟨-, hvariants⟩ := hcloned
    · rw [hbeside.variants]
      exact h.counted
    · rw [hvariants]
      refine h.counted_new ?_ ?_ fun v hv => ?_
      · refine hsub.length_le.trans ?_
        rw [List.length_map, count_eq]
        exact h.counted.count id
      · refine (hsub.filter _).length_le.trans ?_
        rw [List.filter_map, List.length_map]
        exact controls_eq.trans_le (h.counted.controls id)
      · obtain ⟨variant, hvariant, rfl⟩ := mem_map.mp hv
        exact (of_decide_eq_true (mem_takeWhile_imp (p := fun v : CampaignVariant =>
          decide (Copyable v ∧ v.toVariantDraft.Valid)) hvariant)).2
  · rw [InOrder] at hc
    split at hc
    · next hnew =>
        obtain ⟨hsource, hcopyable⟩ := hc
        obtain hbeside | ⟨-, hvariants⟩ := hcloned
        · rw [hbeside.variants, hnew]
          exact .inl (sumOf_of_size_le h.valid le_rfl _)
        · rw [hvariants, hnew]
          refine h.ordered_new ?_
          have hall : (served past).copied id =
              ((served past).variantsOf id).map (·.toVariantDraft) := by
            rw [copied, takeWhile_eq_self_iff.mpr]
            exact fun v hv => decide_eq_true ⟨hcopyable v hv, h.valid_of_mem hv⟩
          rw [hall]
          rcases h.ordered id hsource with hnone | hsum
          · rw [← count_eq] at hnone
            rw [length_eq_zero_iff.mp hnone]
            exact .inl rfl
          · refine .inr ?_
            rw [← allocated_eq] at hsum
            have hrounded := map_congr_left fun v (hv : v ∈ (served past).variantsOf id) =>
              h.rounded_of_mem hv
            rw [List.map_map]
            exact hrounded ▸ hsum
    · next hold =>
        obtain hbeside | ⟨-, hvariants⟩ := hcloned
        · exact h.ordered_beside hbeside hc
        · rw [hvariants]
          exact (h.ordered c hc).insertAll_of_ne _ (Ne.symm hold)

theorem Kept.add (h : Kept past) (id : ℕ) (variant : VariantDraft) (org : Option PyStr) :
    Kept (.add id variant org :: past) := by
  have hvalid := valid_after h.valid (.add id variant org)
  have hadded : if Admits (served past) id variant org then
      Wrote (served past) id [variant] (served (.add id variant org :: past))
      else Beside (served past) (served (.add id variant org :: past)) :=
    of_wp_void (P := fun t => if Admits (served past) id variant org then
      Wrote (served past) id [variant] t else Beside (served past) t) (wp_addVariant id variant org)
  by_cases hadmits : Admits (served past) id variant org
  · rw [if_pos hadmits] at hadded
    obtain ⟨-, hvariants⟩ := hadded
    obtain ⟨hselect, hcount, hcontrol, hvariant⟩ := hadmits
    refine ⟨hvalid, ?_, fun c hc => ?_⟩
    · rw [hvariants]
      refine h.counted.insertAll ?_ ?_ ?_
      · rw [← count_eq]
        exact hcount
      · rw [← controls_eq]
        by_cases hflag : variant.isControl = true
        · have hnone : ((served past).variantsOf id).filter (·.isControl) = [] :=
            filter_eq_nil_iff.mpr fun v hv => by simp [hcontrol hflag v hv]
          rw [hnone, length_nil, zero_add]
          exact length_filter_le _ _
        · have hnone : [variant].filter (·.isControl) = [] :=
            filter_cons_of_neg hflag
          rw [hnone, controls_eq]
          exact h.counted.controls id
      · exact fun v hv => mem_singleton.mp hv ▸ hvariant
    · rw [hvariants]
      rw [InOrder] at hc
      split at hc
      · next hboth =>
          obtain ⟨rfl, -⟩ := hboth
          refine .inr ?_
          rw [sumOf_insertAll, if_pos rfl, ← allocated_eq]
          simpa only [map_cons, map_nil, sum_singleton, VariantDraft.stored,
            VariantDraft.toRow] using hc
      · next hnot =>
          have hne : id ≠ c := fun hsame => hnot ⟨hsame.symm, hselect, hcount, hcontrol, hvariant⟩
          exact (h.ordered c hc).insertAll_of_ne _ hne
  · rw [if_neg hadmits] at hadded
    refine ⟨hvalid, hadded.variants ▸ h.counted, fun c hc => ?_⟩
    rw [InOrder] at hc
    rw [if_neg fun hboth => hadmits hboth.2] at hc
    exact h.ordered_beside hadded hc

theorem Kept.updateAllocations (h : Kept past) (id : ℕ) (allocations : Allocations)
    (org : Option PyStr) : Kept (.updateAllocations id allocations org :: past) := by
  have hvalid := valid_after h.valid (.updateAllocations id allocations org)
  have hupdated : (served (.updateAllocations id allocations org :: past)).variants =
      if Passes (served past) id allocations org then
        allocate (served past) id allocations.entries (served past).variants
      else (served past).variants :=
    (of_wp_void (P := fun t => t.campaigns.size = (served past).campaigns.size ∧ t.variants =
      if Passes (served past) id allocations org then
        allocate (served past) id allocations.entries (served past).variants
      else (served past).variants) (wp_updateVariantAllocations id allocations org)).2
  by_cases hpasses : Passes (served past) id allocations org
  · rw [if_pos hpasses] at hupdated
    refine ⟨hvalid, hupdated ▸ h.counted.allocate _, fun c hc => ?_⟩
    rw [hupdated]
    rw [InOrder] at hc
    split at hc
    · next hboth =>
        obtain ⟨rfl, -⟩ := hboth
        refine .inr ?_
        rw [sumOf_allocate (fun _ => Iff.rfl) hc.taken allocations.unique, ← allocated_eq,
          ← hc.named]
        exact (congrArg AddsUp (add_sub_cancel_left _ _)).mpr hc.sum
    · next hnot =>
        have hne : id ≠ c := fun hsame => hnot ⟨hsame.symm, hpasses⟩
        exact (h.ordered c hc).allocate_of_ne _ hne
  · rw [if_neg hpasses] at hupdated
    refine ⟨hvalid, hupdated ▸ h.counted, fun c hc => ?_⟩
    rw [hupdated]
    rw [InOrder, if_neg fun hboth => hpasses hboth.2] at hc
    exact h.ordered c hc

theorem Kept.schedule (h : Kept past) (now : Timestamp) (id : ℕ) (scheduledAt : Option DateTime)
    (tzName : PyStr) (org scheduledBy task : Option PyStr) :
    Kept (.schedule now id scheduledAt tzName org scheduledBy task :: past) := by
  have hvalid := valid_after h.valid (.schedule now id scheduledAt tzName org scheduledBy task)
  have hbeside : Beside (served past)
      (served (.schedule now id scheduledAt tzName org scheduledBy task :: past)) :=
    of_wp_void (beside_of_only (scheduleCampaign_besides now id scheduledAt tzName org scheduledBy
      task))
  refine ⟨hvalid, hbeside.variants ▸ h.counted, fun c hc => ?_⟩
  exact h.ordered_beside hbeside hc

/-- **After any requests, the variants are within bounds, and what is in order adds up.** -/
theorem kept (past : List VariantRequest) : Kept past := by
  induction past with
  | nil => exact kept_nil
  | cons r past ih =>
    cases r with
    | create now request org createdBy => exact ih.create now request org createdBy
    | add id variant org => exact ih.add id variant org
    | updateAllocations id allocations org => exact ih.updateAllocations id allocations org
    | clone id newName org clonedBy => exact ih.clone id newName org clonedBy
    | schedule now id scheduledAt tzName org scheduledBy task =>
      exact ih.schedule now id scheduledAt tzName org scheduledBy task

theorem bounded (past : List VariantRequest) (c : ℕ) : Bounded (served past) c where
  range _ hv := ((kept past).valid_of_mem hv).2.2
  controls := controls_eq.trans_le ((kept past).counted.controls c)
  count := count_eq.trans_le ((kept past).counted.count c)

/-- **A campaign in order that is scheduled has a partition**, after any requests. The variants of
every campaign are within bounds, and an update that raises has written nothing exactly if it has
been refused at once, or its entries up to the refused one were harmless. -/
theorem partition_of_inOrder (past : List VariantRequest) (c : ℕ) :
    Bounded (served past) c ∧
    (∀ now scheduledAt tzName org scheduledBy task campaign,
      ((scheduleCampaign now c scheduledAt tzName org scheduledBy task).run handle
        (served past, .up)).1 = .ok campaign → InOrder past c → Partition (served past) c) ∧
    (∀ allocations org e,
      ((updateVariantAllocations c allocations org).run handle (served past, .up)).1 = .error e →
        (((updateVariantAllocations c allocations org).run handle
            (served past, .up)).2.1.variants = (served past).variants ↔
          Unwritten (served past) c allocations org)) := by
  refine ⟨bounded past c, fun now scheduledAt tzName org scheduledBy task campaign h hc => ?_,
    fun allocations org e _ => ?_⟩
  · refine ⟨bounded past c, ?_⟩
    rcases (kept past).ordered c hc with hnone | hsum
    · rw [← count_eq] at hnone
      exact absurd (length_eq_zero_iff.mp hnone) (variants_of_scheduled h)
    · rwa [allocated_eq]
  · rw [(wp_updateVariantAllocations (s := served past) c allocations org).2.2]
    by_cases hpasses : Passes (served past) c allocations org
    · rw [if_pos hpasses]
      exact (allocate_eq_iff allocations.unique).trans ⟨fun h _ => h, fun h => h hpasses⟩
    · rw [if_neg hpasses]
      exact iff_of_true rfl fun h => absurd h hpasses

end Runs

/-! ### Campaigns out of order, and in order -/

def createWith (allocations : List ℚ) : VariantRequest :=
  .create 0
    { name := ['n'], campaignType := .scheduled
      scheduledAt := some { instant := minSchedule }
      audiences := [{ segmentType := .included, segmentId := some ['s'], segmentQuery := none
                      name := none }]
      variants := allocations.map fun a => { name := ['v'], allocationPercentage := a } }
    ['o'] ['c']

def addHalf : VariantRequest := .add 0 { name := ['w'], allocationPercentage := 50 } none

def beyond : Allocations where
  entries := [(0, 50), (1, 150), (2, -100)]
  unique := by decide

/-- A variant is added to one that has everything, and the campaign is scheduled with 150 percent;
and an update raises at its second entry, when the first has been written. -/
theorem not_partition :
    ((scheduleCampaign 0 0 none [] none none none).run handle
      (served [addHalf, createWith [100]], .up)).1.isOk = true ∧
    ¬Partition (served [addHalf, createWith [100]]) 0 ∧
    ((updateVariantAllocations 0 beyond none).run handle
      (served [createWith [60, 40]], .up)).1.isOk = false ∧
    ((updateVariantAllocations 0 beyond none).run handle
      (served [createWith [60, 40]], .up)).2.1.variants ≠
        (served [createWith [60, 40]]).variants := by
  refine ⟨by decide +kernel, fun h => ?_, by decide +kernel, by decide +kernel⟩
  have hnot : ¬AddsUp ((served [addHalf, createWith [100]]).allocated 0) := by decide +kernel
  exact hnot h.sum

def halves : Allocations where
  entries := [(0, 50), (1, 50)]
  unique := by decide

def half : Allocations where
  entries := [(0, 50)]
  unique := by decide

/-- The allocations of a campaign are changed, and it is scheduled. -/
theorem partition_halves :
    Partition (served [.updateAllocations 0 halves none, createWith [60, 40]]) 0 ∧
    (((updateVariantAllocations 0 half none).run handle
      (served [createWith [60, 40]], .up)).2.1.variants =
        (served [createWith [60, 40]]).variants) := by
  obtain ⟨-, hpartition, -⟩ :=
    partition_of_inOrder [.updateAllocations 0 halves none, createWith [60, 40]] 0
  obtain ⟨-, -, hwritten⟩ := partition_of_inOrder [createWith [60, 40]] 0
  obtain ⟨campaign, hscheduled⟩ := exists_ok
    (r := ((scheduleCampaign 0 0 none [] none none none).run handle
      (served [.updateAllocations 0 halves none, createWith [60, 40]], .up)).1) (by decide +kernel)
  obtain ⟨e, hraised⟩ := exists_error (r := ((updateVariantAllocations 0 half none).run handle
    (served [createWith [60, 40]], .up)).1) (by decide +kernel)
  refine ⟨hpartition _ _ _ _ _ _ campaign hscheduled (by decide +kernel), ?_⟩
  refine (hwritten half none e hraised).mpr fun hpasses => ?_
  exact absurd hpasses (by decide +kernel)

end IsaUser.Campaigns
