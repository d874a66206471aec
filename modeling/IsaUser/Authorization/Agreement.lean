import IsaUser.Authorization.Listing
import Mathlib.Data.Set.Finite.Lemmas

/-!
# Checks and Lists

A check (`_check_resource_access_uncached`) looks for a rule that is sufficient: a permission of
the user, which is read twice, once for the grant of an admin and once for another, or the
configured permission that the subscription is enough for. `list_user_accessible_resources` lists
what the same rules give. Both read the tables without an order, so of several permissions about
a resource a check may find any.
-/

open List Option

namespace IsaUser.Authorization

theorem AccessLevel.priority_injective : Function.Injective AccessLevel.priority := by
  intro a b h
  cases a <;> cases b <;> first | rfl | cases h

instance : Fintype AccessLevel :=
  ⟨{.none, .readOnly, .readWrite, .admin, .owner}, fun level => by cases level <;> decide⟩

namespace Inquiry

/-! ### The law -/

section Law

variable (q : Inquiry)

def asking (level : AccessLevel) : ResourceAccessRequest :=
  { q.request with requiredAccessLevel := level }

def Allowed (choices : Choices) (level : AccessLevel) : Prop :=
  ∃ response, (((q.configured choices).checkResourceAccessUncached (q.asking level)).run
    q.service.redis.handle (q.store choices)).1 = .ok response ∧ response.hasAccess = true

/-- A rule gives a level: a permission of the user, be it the grant of an admin or not, or a
configured one. -/
def Gives (level : AccessLevel) : Prop :=
  (∃ row ∈ q.userRows, row.val.accessLevel = level) ∨
    ∃ c ∈ q.subscriptionRows, c.permission.accessLevel = level

def Highest (level : AccessLevel) : Prop :=
  q.Gives level ∧ ∀ other, q.Gives other → other.priority ≤ level.priority

/-- **The law.** Whatever the database returns of several rows, a check is allowed up to the
highest level that a rule gives, the resource is listed with this level and no other, and who is
allowed a level is allowed the lower ones. -/
structure AccessAgrees : Prop where
  allowed : ∀ choices level, q.Allowed choices level ↔
    ∃ most, q.Highest most ∧ level.priority ≤ most.priority
  listed : ∀ choices, ∀ filter ∈ [none, some q.request.resourceType], ∀ level,
    q.Listed choices (filter.map fun t => t.value.toList) level ↔ q.Highest level
  monotone : ∀ choices (level lower : AccessLevel), lower.priority ≤ level.priority →
    q.Allowed choices level → q.Allowed choices lower

/-- The user has permissions, and all of them are the grants of an admin, or none is. -/
def SameSource : Prop :=
  q.userRows ≠ [] ∧ ((∀ row ∈ q.userRows, row.val.permissionSource = .adminGrant) ∨
    ∀ row ∈ q.userRows, row.val.permissionSource ≠ .adminGrant)

def OneConfig (level : AccessLevel) : Prop :=
  q.configRows ≠ [] ∧ ∀ c ∈ q.configRows, c.Sufficient q.tier ∧ c.permission.accessLevel = level

/-- The permissions of the user all give the level, which no configured one exceeds. If some of
them are the grants of an admin and others are not, or if there are none, then the configured ones
all give it. And if there are none, then there are none under the name either, and the first
configured one of the name is about this resource. -/
structure Gathered (level : AccessLevel) : Prop where
  rows : ∀ row ∈ q.userRows, row.val.accessLevel = level
  subscription : ∀ c ∈ q.subscriptionRows, c.permission.accessLevel.priority ≤ level.priority
  read : q.SameSource ∨ q.OneConfig level
  named : q.userRows = [] → q.namedRows none = [] ∧
    ∃ c ∈ q.firstOfName none, c.resourceType = q.request.resourceType

/-- No rule gives anything, or they agree on a level. -/
def Unambiguous : Prop :=
  (q.userRows = [] ∧ q.subscriptionRows = []) ∨ ∃ level, q.Gathered level

end Law

variable {q : Inquiry} {choices : Choices} {level most : AccessLevel} {filter : Option ResourceType}
  {c : ResourceConfig}

/-! ### The check -/

def reading (q : Inquiry) (choices : Choices) (n : ℕ) : Option (Row PermissionRow) :=
  (q.userRows.rotate (choices.picks n)).head?

def picked (q : Inquiry) (choices : Choices) : Option ResourceConfig :=
  (q.configRows.rotate (choices.config q.request.resourceType q.request.resourceName)).head?

theorem getUserPermission_wp {redis : Redis} {s : Store} (target : Target) (hs : s.Answered) :
    (getUserPermission target).wp redis.handle (fun r s' =>
      r = .ok ((((s.active target).rotate (s.weather 0).pick).head?).map readRecord) ∧
        s' = { s with weather := fun n => s.weather (n + 1) }) s := by
  refine Prog.wp_tryCatch.mpr (Prog.wp_bind.mpr (Prog.wp_query.mpr ?_))
  simp only [Redis.handle, hs 0, Link.send, Redis.serve]
  exact ⟨rfl, rfl⟩

theorem active_asking : (q.configured choices).surroundings.activeUser (q.asking level).userId =
    some q.userInfo :=
  q.active

/-- **A check follows from two readings.** -/
theorem check_wp : ((q.configured choices).checkResourceAccessUncached (q.asking level)).wp
    q.service.redis.handle (fun r _ => r = .ok ((q.configured choices).surroundings.resolve
      (q.asking level) ((q.reading choices 0).map readRecord)
        ((q.reading choices 1).map readRecord))) (q.store choices) := by
  rw [AuthorizationService.checkResourceAccessUncached, active_asking]
  refine Prog.wp_bind.mpr (Prog.wp_mono (getUserPermission_wp _ answered) ?_)
  rintro _ _ ⟨rfl, rfl⟩
  dsimp only
  split
  · next response hresponse =>
    exact congrArg Except.ok (Surroundings.resolve_of_some active_asking hresponse).symm
  · next hnone =>
    refine Prog.wp_bind.mpr (Prog.wp_mono (getUserPermission_wp _ fun _ => rfl) ?_)
    rintro _ _ ⟨rfl, -⟩
    exact congrArg Except.ok (Surroundings.resolve_of_none active_asking hnone).symm

theorem organizationAccess_eq_none : (q.configured choices).surroundings.organizationAccess
    (q.asking level) q.userInfo = none := by
  rw [Surroundings.organizationAccess, q.noOrganization]
  cases horg : given (q.asking level).organizationId with
  | none => rfl
  | some organizationId =>
    have hmember : (q.configured choices).surroundings.isUserOrganizationMember
        (q.asking level).userId organizationId = false := q.notMember organizationId horg
    simp [Surroundings.checkOrganizationAccess, hmember]

def Grants (access : Option ResourceAccessResponse) (p : Prop) : Prop :=
  (∀ response ∈ access, response.hasAccess = true) ∧ (access.isSome ↔ p)

theorem grants_ite {p : Prop} [Decidable p] {response : ResourceAccessResponse}
    (h : p → response.hasAccess = true) : Grants (if p then some response else none) p := by
  by_cases hp : p
  · exact ⟨by simpa [hp] using h hp, by simp [hp]⟩
  · exact ⟨by simp [hp], by simp [hp]⟩

theorem Grants.hasAccess {x y z : Option ResourceAccessResponse} {p p' p'' : Prop}
    (hx : Grants x p) (hy : Grants y p') (hz : Grants z p'') {denied : ResourceAccessResponse}
    (hdenied : denied.hasAccess = false) :
    (((x <|> none <|> y) <|> z).getD denied).hasAccess = true ↔ p ∨ p' ∨ p'' := by
  rw [← hx.2, ← hy.2, ← hz.2]
  cases x with
  | some response => simpa using hx.1 response rfl
  | none =>
    cases y with
    | some response => simpa using hy.1 response rfl
    | none =>
      cases z with
      | some response => simpa using hz.1 response rfl
      | none => simpa using hdenied

theorem hasSufficientAccess_iff {userLevel requiredLevel : AccessLevel} :
    hasSufficientAccess userLevel requiredLevel = true ↔
      requiredLevel.priority ≤ userLevel.priority :=
  decide_eq_true_iff

theorem grants_adminAccess {row : Option (Row PermissionRow)} : Grants
    (Surroundings.adminAccess (q.asking level) q.userInfo (row.map readRecord))
    (∃ r ∈ row, r.val.permissionSource = .adminGrant ∧
      level.priority ≤ r.val.accessLevel.priority) := by
  cases row with
  | none => exact ⟨nofun, by simp [Surroundings.adminAccess]⟩
  | some r =>
    simp only [mem_some_iff, exists_eq_left', ← hasSufficientAccess_iff]
    exact grants_ite fun _ => rfl

theorem grants_userAccess {row : Option (Row PermissionRow)} : Grants
    (Surroundings.userAccess (q.asking level) q.userInfo (row.map readRecord))
    (∃ r ∈ row, r.val.permissionSource ≠ .adminGrant ∧
      level.priority ≤ r.val.accessLevel.priority) := by
  cases row with
  | none => exact ⟨nofun, by simp [Surroundings.userAccess]⟩
  | some r =>
    simp only [mem_some_iff, exists_eq_left', ← hasSufficientAccess_iff]
    exact grants_ite fun _ => rfl

theorem grants_subscriptionAccess : Grants
    ((q.configured choices).surroundings.subscriptionAccess (q.asking level) q.userInfo)
    (∃ c ∈ q.picked choices, c.Sufficient q.tier ∧
      level.priority ≤ c.permission.accessLevel.priority) := by
  have hpicked : (q.configured choices).surroundings.getResourcePermission
      (q.asking level).resourceType (q.asking level).resourceName =
        (q.picked choices).map ResourceConfig.permission := rfl
  rw [Surroundings.subscriptionAccess, Surroundings.checkSubscriptionAccess, hpicked]
  cases q.picked choices with
  | none => exact ⟨nofun, by simp⟩
  | some c =>
    simp only [map_some, mem_some_iff, exists_eq_left', ← hasSufficientAccess_iff,
      ResourceConfig.Sufficient, tier, asking]
    by_cases h : subscriptionTierSufficient (.ofStatus q.userInfo.subscriptionStatus)
        c.permission.subscriptionTierRequired = true ∧
          hasSufficientAccess c.permission.accessLevel level = true
    · simp only [h, and_self]
      exact ⟨fun _ hmem => some.inj hmem ▸ rfl, iff_of_true rfl trivial⟩
    · simp only [h, if_false]
      exact ⟨nofun, iff_of_false nofun id⟩

/-- **When a check is allowed.** -/
theorem allowed_iff : q.Allowed choices level ↔
    (∃ row ∈ q.reading choices 0, row.val.permissionSource = .adminGrant ∧
      level.priority ≤ row.val.accessLevel.priority) ∨
    (∃ c ∈ q.picked choices, c.Sufficient q.tier ∧
      level.priority ≤ c.permission.accessLevel.priority) ∨
    ∃ row ∈ q.reading choices 1, row.val.permissionSource ≠ .adminGrant ∧
      level.priority ≤ row.val.accessLevel.priority := by
  have hrun : (((q.configured choices).checkResourceAccessUncached (q.asking level)).run
    q.service.redis.handle (q.store choices)).1 = _ := check_wp
  rw [Allowed, hrun]
  simp only [Except.ok.injEq, exists_eq_left']
  rw [Surroundings.resolve_of_user active_asking, organizationAccess_eq_none]
  exact grants_adminAccess.hasAccess grants_subscriptionAccess grants_userAccess rfl

/-! ### What may be picked -/

theorem exists_head?_rotate {α : Type} {l : List α} {a : α} :
    (∃ n, (l.rotate n).head? = some a) ↔ a ∈ l := by
  constructor
  · rintro ⟨n, h⟩
    exact mem_rotate.mp (mem_of_head? h)
  · intro h
    obtain ⟨n, hn, rfl⟩ := getElem_of_mem h
    exact ⟨n, by rw [head?_rotate hn, getElem?_eq_getElem hn]⟩

theorem exists_mem_head?_rotate {α : Type} {l : List α} (h : l ≠ []) (n : ℕ) :
    ∃ a ∈ l, (l.rotate n).head? = some a := by
  obtain ⟨a, ha⟩ := isSome_iff_exists.mp
    (isSome_head?.mpr (mt rotate_eq_nil_iff.mp h) : (l.rotate n).head?.isSome)
  exact ⟨a, exists_head?_rotate.mp ⟨n, ha⟩, ha⟩

theorem mem_subscriptionRows : c ∈ q.subscriptionRows ↔ c ∈ q.configRows ∧ c.Sufficient q.tier := by
  rw [subscriptionRows, mem_filter, decide_eq_true_eq]

/-! ### What agrees -/

theorem Highest.eq (h : q.Highest most) (hlevel : q.Highest level) : level = most :=
  AccessLevel.priority_injective (le_antisymm (h.2 _ hlevel.1) (hlevel.2 _ h.1))

theorem exists_highest (h : q.Gives level) : ∃ most, q.Highest most := by
  obtain ⟨most, hmost, hmax⟩ := Set.exists_max_image {level | q.Gives level} AccessLevel.priority
    (Set.toFinite _) ⟨level, h⟩
  exact ⟨most, hmost, hmax⟩

theorem accessAgrees_iff_of_highest (h : q.Highest most) :
    q.AccessAgrees ↔ (∀ choices level, q.Allowed choices level ↔
        level.priority ≤ most.priority) ∧
      ∀ choices, ∀ filter ∈ [none, some q.request.resourceType], ∀ level,
        q.Listed choices (filter.map fun t => t.value.toList) level ↔ level = most := by
  have hallowed : ∀ level : AccessLevel, (∃ most, q.Highest most ∧
      level.priority ≤ most.priority) ↔ level.priority ≤ most.priority := fun level =>
    ⟨fun ⟨_, hmost, hle⟩ => h.eq hmost ▸ hle, fun hle => ⟨most, h, hle⟩⟩
  have hlisted : ∀ level, q.Highest level ↔ level = most := fun level =>
    ⟨h.eq, fun heq => heq ▸ h⟩
  constructor
  · rintro ⟨hallowed', hlisted', -⟩
    exact ⟨fun choices level => (hallowed' choices level).trans (hallowed level),
      fun choices filter hfilter level =>
        (hlisted' choices filter hfilter level).trans (hlisted level)⟩
  · rintro ⟨hallowed', hlisted'⟩
    refine ⟨fun choices level => (hallowed' choices level).trans (hallowed level).symm,
      fun choices filter hfilter level =>
        (hlisted' choices filter hfilter level).trans (hlisted level).symm, ?_⟩
    intro choices level lower hle hlevel
    exact (hallowed' choices lower).mpr (hle.trans ((hallowed' choices level).mp hlevel))

theorem Gathered.highest (h : q.Gathered most) : q.Highest most := by
  constructor
  · rcases h.read with ⟨hrows, -⟩ | ⟨hconfigs, hone⟩
    · obtain ⟨row, hrow⟩ := exists_mem_of_ne_nil _ hrows
      exact .inl ⟨row, hrow, h.rows row hrow⟩
    · obtain ⟨c, hc⟩ := exists_mem_of_ne_nil _ hconfigs
      exact .inr ⟨c, mem_subscriptionRows.mpr ⟨hc, (hone c hc).1⟩, (hone c hc).2⟩
  · rintro other (⟨row, hrow, rfl⟩ | ⟨c, hc, rfl⟩)
    · rw [h.rows row hrow]
    · exact h.subscription c hc

theorem Gathered.allowed (h : q.Gathered most) :
    q.Allowed choices level ↔ level.priority ≤ most.priority := by
  have hread : ∀ {n row}, row ∈ q.reading choices n → row.val.accessLevel = most :=
    fun hrow => h.rows _ (exists_head?_rotate.mp ⟨_, hrow⟩)
  rw [allowed_iff]
  constructor
  · rintro (⟨row, hrow, -, hle⟩ | ⟨c, hc, hsufficient, hle⟩ | ⟨row, hrow, -, hle⟩)
    · rwa [hread hrow] at hle
    · have hmem := mem_subscriptionRows.mpr ⟨exists_head?_rotate.mp ⟨_, hc⟩, hsufficient⟩
      exact hle.trans (h.subscription c hmem)
    · rwa [hread hrow] at hle
  · intro hle
    rcases h.read with ⟨hrows, hadmin | hother⟩ | ⟨hconfigs, hone⟩
    · obtain ⟨row, hrow, hfirst⟩ := exists_mem_head?_rotate hrows (choices.picks 0)
      exact .inl ⟨row, hfirst, hadmin row hrow, by rwa [hread hfirst]⟩
    · obtain ⟨row, hrow, hsecond⟩ := exists_mem_head?_rotate hrows (choices.picks 1)
      exact .inr (.inr ⟨row, hsecond, hother row hrow, by rwa [hread hsecond]⟩)
    · obtain ⟨c, hc, hpicked⟩ := exists_mem_head?_rotate hconfigs
        (choices.config q.request.resourceType q.request.resourceName)
      obtain ⟨hsufficient, heq⟩ := hone c hc
      exact .inr (.inl ⟨c, hpicked, hsufficient, by rwa [heq]⟩)

theorem mem_of_firstOfName (h : c ∈ q.firstOfName filter)
    (htype : c.resourceType = q.request.resourceType) : c ∈ q.configRows ∧ c.Sufficient q.tier := by
  have hfound := find?_some h
  obtain ⟨hname, hsufficient⟩ := of_decide_eq_true hfound
  obtain ⟨hmem, hactive⟩ := mem_filter.mp (mem_of_find?_eq_some h)
  refine ⟨mem_filter.mpr ⟨hmem, decide_eq_true ?_⟩, hsufficient⟩
  exact ⟨(of_decide_eq_true hactive).1, htype, hname⟩

theorem exists_firstOfName (hc : c ∈ q.subscriptionRows) :
    ∃ c' ∈ q.firstOfName (some q.request.resourceType),
      c'.resourceType = q.request.resourceType := by
  obtain ⟨hmem, hsufficient⟩ := mem_subscriptionRows.mp hc
  obtain ⟨hmem, habout⟩ := mem_filter.mp hmem
  obtain ⟨hactive, htype, hname⟩ := of_decide_eq_true habout
  have hsome : (q.firstOfName (some q.request.resourceType)).isSome :=
    find?_isSome.mpr ⟨c, mem_filter.mpr ⟨hmem, by simp [hactive, htype, matchesType]⟩,
      decide_eq_true ⟨hname, hsufficient⟩⟩
  obtain ⟨c', hc'⟩ := isSome_iff_exists.mp hsome
  have htype' := (of_decide_eq_true (mem_filter.mp (mem_of_find?_eq_some hc')).2).2
  exact ⟨c', hc', of_decide_eq_true htype'⟩

theorem namedRows_some : q.namedRows (some q.request.resourceType) = q.userRows := by
  refine congrArg q.permissions.select (funext fun row => decide_eq_decide.mpr ?_)
  refine and_congr_right fun _ => ⟨?_, ?_⟩
  · rintro ⟨hown, hname, htype⟩
    exact congr (congr (congrArg Target.mk hown) (of_decide_eq_true htype)) hname
  · intro htarget
    rw [htarget]
    exact ⟨rfl, rfl, decide_eq_true rfl⟩

theorem userRows_eq_nil (hfilter : filter ∈ [none, some q.request.resourceType])
    (h : q.namedRows filter = []) : q.userRows = [] := by
  rcases mem_pair.mp hfilter with rfl | rfl
  · rw [← namedRows_some, eq_nil_iff_forall_not_mem]
    intro row hrow
    obtain ⟨hget, hactive⟩ := Table.mem_select.mp hrow
    obtain ⟨hactive, hown, hname, -⟩ := of_decide_eq_true hactive
    exact eq_nil_iff_forall_not_mem.mp h row
      (Table.mem_select.mpr ⟨hget, decide_eq_true ⟨hactive, hown, hname, rfl⟩⟩)
  · rwa [namedRows_some] at h

theorem Gathered.listed (h : q.Gathered most)
    (hfilter : filter ∈ [none, some q.request.resourceType]) :
    q.Listed choices (filter.map fun t => t.value.toList) level ↔ level = most := by
  rw [listed_iff hfilter]
  by_cases hrows : q.userRows = []
  · obtain ⟨hconfigs, hone⟩ := h.read.resolve_left fun hsame => hsame.1 hrows
    obtain ⟨c, hc⟩ := exists_mem_of_ne_nil _ hconfigs
    obtain ⟨hnamed, c', hc', htype⟩ : q.namedRows filter = [] ∧
        ∃ c ∈ q.firstOfName filter, c.resourceType = q.request.resourceType := by
      rcases mem_pair.mp hfilter with rfl | rfl
      · exact h.named hrows
      · exact ⟨namedRows_some.trans hrows,
          exists_firstOfName (mem_subscriptionRows.mpr ⟨hc, (hone c hc).1⟩)⟩
    have hlevel := (hone c' (mem_of_firstOfName hc' htype).1).2
    rw [hrows]
    constructor
    · rintro (⟨row, hrow, -⟩ | ⟨-, c, hc, -, rfl⟩)
      · cases hrow
      · rwa [mem_unique hc hc']
    · rintro rfl
      exact .inr ⟨hnamed, c', hc', htype, hlevel⟩
  · rw [or_iff_left fun hright => hrows (userRows_eq_nil hfilter hright.1)]
    obtain ⟨row, hrow⟩ := exists_mem_of_ne_nil _ hrows
    exact ⟨fun ⟨row, hrow, hlevel⟩ => hlevel ▸ h.rows row hrow,
      fun hlevel => ⟨row, hrow, hlevel ▸ h.rows row hrow⟩⟩

theorem oneConfig_of_allowed (hmost : q.Highest most)
    (hallowed : ∀ choices, q.Allowed choices most) (hsame : ¬q.SameSource) :
    q.OneConfig most := by
  -- The first reading may be of no grant of an admin, and the second of none but such.
  obtain ⟨i, j, hfirst, hsecond⟩ : ∃ i j,
      (∀ row ∈ (q.userRows.rotate i).head?, row.val.permissionSource ≠ .adminGrant) ∧
        ∀ row ∈ (q.userRows.rotate j).head?, row.val.permissionSource = .adminGrant := by
    by_cases hrows : q.userRows = []
    · exact ⟨0, 0, by simp [hrows], by simp [hrows]⟩
    · rw [SameSource, not_and_or, not_or] at hsame
      obtain ⟨hadmin, hother⟩ := hsame.resolve_left (not_not.mpr hrows)
      push Not at hadmin hother
      obtain ⟨⟨first, hmem, hfirst⟩, second, hmem', hsecond⟩ := And.intro hadmin hother
      obtain ⟨⟨i, hi⟩, j, hj⟩ := And.intro (exists_head?_rotate.mpr hmem)
        (exists_head?_rotate.mpr hmem')
      refine ⟨i, j, fun row hrow => ?_, fun row hrow => ?_⟩
      · rwa [mem_unique hrow hi]
      · rwa [mem_unique hrow hj]
  have hpicked : ∀ n, ∃ c, (q.configRows.rotate n).head? = some c ∧ c.Sufficient q.tier ∧
      most.priority ≤ c.permission.accessLevel.priority := by
    intro n
    have h := hallowed ⟨fun k => if k = 0 then i else j, fun _ _ => n⟩
    rcases allowed_iff.mp h with ⟨row, hrow, hadmin, -⟩ | h | ⟨row, hrow, hother, -⟩
    · exact absurd hadmin (hfirst row hrow)
    · exact h
    · exact absurd (hsecond row hrow) hother
  refine ⟨fun hnil => ?_, fun c hc => ?_⟩
  · obtain ⟨c, hc, -⟩ := hpicked 0
    simp [hnil] at hc
  · obtain ⟨n, hn⟩ := exists_head?_rotate.mpr hc
    obtain ⟨c', hc', hsufficient, hle⟩ := hpicked n
    obtain rfl : c = c' := some.inj (hn.symm.trans hc')
    refine ⟨hsufficient, AccessLevel.priority_injective (le_antisymm ?_ hle)⟩
    exact hmost.2 _ (.inr ⟨c, mem_subscriptionRows.mpr ⟨hc, hsufficient⟩, rfl⟩)

theorem gathered_of_accessAgrees (h : q.AccessAgrees) (hmost : q.Highest most) :
    q.Gathered most := by
  obtain ⟨hallowed, hlisted⟩ := (accessAgrees_iff_of_highest hmost).mp h
  have hnone : (none : Option ResourceType) ∈ [none, some q.request.resourceType] := by simp
  refine ⟨fun row hrow => ?_, fun c hc => hmost.2 _ (.inr ⟨c, hc, rfl⟩), ?_, fun hrows => ?_⟩
  · exact (hlisted ⟨fun _ => 0, fun _ _ => 0⟩ none hnone _).mp
      ((listed_iff hnone).mpr (.inl ⟨row, hrow, rfl⟩))
  · exact or_iff_not_imp_left.mpr
      (oneConfig_of_allowed hmost fun choices => (hallowed choices most).mpr le_rfl)
  · have hmost' := (hlisted ⟨fun _ => 0, fun _ _ => 0⟩ none hnone most).mpr rfl
    rcases (listed_iff hnone).mp hmost' with ⟨row, hrow, -⟩ | ⟨hnamed, c, hc, htype, -⟩
    · rw [hrows] at hrow
      cases hrow
    · exact ⟨hnamed, c, hc, htype⟩

theorem accessAgrees_of_nothing (hrows : q.userRows = []) (hsubs : q.subscriptionRows = []) :
    q.AccessAgrees := by
  have hgives : ∀ level, ¬q.Gives level := by simp [Gives, hrows, hsubs]
  have hconfig : ∀ c ∈ q.configRows, ¬c.Sufficient q.tier := fun c hc hsufficient =>
    eq_nil_iff_forall_not_mem.mp hsubs c (mem_subscriptionRows.mpr ⟨hc, hsufficient⟩)
  have hallowed : ∀ choices level, ¬q.Allowed choices level := by
    intro choices level h
    rcases allowed_iff.mp h with ⟨row, hrow, -⟩ | ⟨c, hc, hsufficient, -⟩ | ⟨row, hrow, -⟩
    · simp [reading, hrows] at hrow
    · exact hconfig c (exists_head?_rotate.mp ⟨_, hc⟩) hsufficient
    · simp [reading, hrows] at hrow
  refine ⟨fun choices level => iff_of_false (hallowed choices level) fun ⟨_, h, _⟩ => hgives _ h.1,
    fun choices filter hfilter level => iff_of_false (fun h => ?_) fun h => hgives _ h.1,
    fun choices level _ _ h => absurd h (hallowed choices level)⟩
  rcases (listed_iff hfilter).mp h with ⟨row, hrow, -⟩ | ⟨-, c, hc, htype, -⟩
  · rw [hrows] at hrow
    cases hrow
  · obtain ⟨hmem, hsufficient⟩ := mem_of_firstOfName hc htype
    exact hconfig c hmem hsufficient

/-- **When checks and lists agree.** -/
theorem accessAgrees_iff (q : Inquiry) : q.AccessAgrees ↔ q.Unambiguous := by
  constructor
  · intro h
    by_cases hgives : ∃ level, q.Gives level
    · obtain ⟨level, hlevel⟩ := hgives
      obtain ⟨most, hmost⟩ := exists_highest hlevel
      exact .inr ⟨most, gathered_of_accessAgrees h hmost⟩
    · refine .inl ⟨?_, ?_⟩ <;> refine eq_nil_iff_forall_not_mem.mpr fun _ hmem => hgives ?_
      · exact ⟨_, .inl ⟨_, hmem, rfl⟩⟩
      · exact ⟨_, .inr ⟨_, hmem, rfl⟩⟩
  · rintro (⟨hrows, hsubs⟩ | ⟨level, h⟩)
    · exact accessAgrees_of_nothing hrows hsubs
    · exact (accessAgrees_iff_of_highest h.highest).mpr
        ⟨fun _ _ => h.allowed, fun _ _ hfilter _ => h.listed hfilter⟩

def weaklyGranted : Inquiry where
  service := plainService
  configs := [{ resourceType := .database, resourceName := "t".toList
                permission := ⟨.free, .readWrite, none⟩ }]
  permissions := Table.empty.insert
    { target := plainRequest.target, accessLevel := .readOnly, permissionSource := .systemDefault
      grantedBy := none, isActive := true }
  request := plainRequest
  userInfo := ⟨"free".toList, true, none⟩
  active := rfl
  noOrganization := rfl
  notMember := nofun

theorem not_accessAgrees_weaklyGranted : ¬weaklyGranted.AccessAgrees := by
  intro h
  have hnone : (none : Option ResourceType) ∈ [none, some weaklyGranted.request.resourceType] :=
    mem_cons_self
  have hlisted : weaklyGranted.Listed ⟨fun _ => 0, fun _ _ => 0⟩ none .readOnly :=
    (listed_iff hnone).mpr (.inl ⟨⟨0, _⟩, mem_cons_self, rfl⟩)
  have hle := ((h.listed _ _ hnone _).mp hlisted).2 .readWrite
    (.inr ⟨_, mem_cons_self, rfl⟩)
  exact absurd hle (by decide)

end Inquiry

/-! ### Required levels -/

namespace Surroundings

section Threshold

/-- What a source of permissions answers to each required level: some levels are granted, each
with all those below it, and the level that is granted suffices. -/
def IsThreshold (source : AccessLevel → Option ResourceAccessResponse) : Prop :=
  ∃ top : ℕ, ∀ level, ((source level).isSome ↔ level.priority < top) ∧
    ∀ response ∈ source level, response.hasAccess ∧
      hasSufficientAccess response.userAccessLevel level

variable {source source' : AccessLevel → Option ResourceAccessResponse}

theorem isThreshold_none : IsThreshold fun _ => none :=
  ⟨0, fun _ => ⟨by simp, fun _ h => by cases h⟩⟩

theorem isThreshold_ite {p : Prop} [Decidable p] {granted : AccessLevel}
    {response : ResourceAccessResponse} (hlevel : response.userAccessLevel = granted)
    (haccess : response.hasAccess) :
    IsThreshold fun level =>
      if p ∧ hasSufficientAccess granted level then some response else none := by
  refine ⟨if p then granted.priority + 1 else 0, fun level => ?_⟩
  by_cases hp : p
  · by_cases hgranted : level.priority ≤ granted.priority <;>
      simp [hp, hgranted, hlevel, haccess, hasSufficientAccess, Nat.lt_succ_iff]
  · simp [hp]

theorem isThreshold_access {p : Prop} [Decidable p] {granted : AccessLevel}
    {response denied : ResourceAccessResponse} (hlevel : response.userAccessLevel = granted)
    (haccess : response.hasAccess) (hdenied : denied.hasAccess = false) :
    IsThreshold fun level =>
      let access := if p ∧ hasSufficientAccess granted level then response else denied
      if access.hasAccess then some access else none := by
  convert isThreshold_ite (p := p) hlevel haccess using 2 with level
  split <;> simp [haccess, hdenied]

theorem IsThreshold.or (h : IsThreshold source) (h' : IsThreshold source') :
    IsThreshold fun level => source level <|> source' level := by
  obtain ⟨top, h⟩ := h
  obtain ⟨top', h'⟩ := h'
  refine ⟨max top top', fun level => ?_⟩
  obtain ⟨hsome, hgrants⟩ := h level
  obtain ⟨hsome', hgrants'⟩ := h' level
  rw [lt_max_iff, ← hsome, ← hsome']
  cases hsource : source level with
  | some response =>
    rw [hsource] at hgrants
    simpa [hsource] using hgrants
  | none => simpa [hsource] using hgrants'

end Threshold

section Levels

variable (s : Surroundings) (request : ResourceAccessRequest) (userInfo : UserInfo)

abbrev atLevel (level : AccessLevel) : ResourceAccessRequest :=
  { request with requiredAccessLevel := level }

theorem adminAccess_isThreshold (permission : Option (Row UserPermissionRecord)) :
    IsThreshold fun level => adminAccess (atLevel request level) userInfo permission := by
  cases permission with
  | none => exact isThreshold_none
  | some permission => exact isThreshold_ite rfl rfl

theorem userAccess_isThreshold (permission : Option (Row UserPermissionRecord)) :
    IsThreshold fun level => userAccess (atLevel request level) userInfo permission := by
  cases permission with
  | none => exact isThreshold_none
  | some permission => exact isThreshold_ite rfl rfl

theorem organizationAccess_isThreshold :
    IsThreshold fun level => s.organizationAccess (atLevel request level) userInfo := by
  simp only [organizationAccess]
  cases given request.organizationId <|> given userInfo.organizationId with
  | none => exact isThreshold_none
  | some organizationId =>
    simp only [checkOrganizationAccess, bind_eq_bind, bind_some]
    split
    · exact isThreshold_none
    cases s.getOrganizationInfo organizationId with
    | none => exact isThreshold_none
    | some info =>
      dsimp only
      split
      · exact isThreshold_none
      cases s.getOrganizationPermission organizationId request.resourceType
        request.resourceName with
      | none => exact isThreshold_none
      | some permission => exact isThreshold_access rfl rfl rfl

theorem subscriptionAccess_isThreshold :
    IsThreshold fun level => s.subscriptionAccess (atLevel request level) userInfo := by
  simp only [subscriptionAccess, checkSubscriptionAccess]
  cases s.getResourcePermission request.resourceType request.resourceName with
  | none => exact isThreshold_none
  | some permission => exact isThreshold_access rfl rfl rfl

/-- **A decision is a threshold** in the level that is required, whatever the user's permission
says at the two readings. -/
theorem resolve_isThreshold (first second : Option (Row UserPermissionRecord)) :
    ∃ top : ℕ, ∀ level,
      let response := s.resolve (atLevel request level) first second
      (response.hasAccess ↔ level.priority < top) ∧
        (response.hasAccess → hasSufficientAccess response.userAccessLevel level) := by
  cases huser : s.activeUser request.userId with
  | none => exact ⟨0, fun level => by simp [resolve, huser, userNotFound]⟩
  | some userInfo =>
    obtain ⟨top, hall⟩ := (adminAccess_isThreshold request userInfo first).or
      ((s.organizationAccess_isThreshold request userInfo).or
        ((s.subscriptionAccess_isThreshold request userInfo).or
          (userAccess_isThreshold request userInfo second)))
    refine ⟨top, fun level => ?_⟩
    obtain ⟨hsome, hgrants⟩ := hall level
    simp only [resolve, huser, ← hsome]
    dsimp only at hgrants
    revert hgrants
    generalize (adminAccess (atLevel request level) userInfo first <|> _) = answer
    intro hgrants
    cases answer with
    | none => simp [accessDenied]
    | some response =>
      obtain ⟨haccess, hlevel⟩ := hgrants response rfl
      simp [haccess, hlevel]

end Levels

end Surroundings

end IsaUser.Authorization
