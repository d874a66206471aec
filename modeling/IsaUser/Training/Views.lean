import IsaUser.Lib.Runs
import IsaUser.Training.Writes

/-!
# The Views of Learners and Organizations

What a learner or an organization asks to see looks up every course that the learner is enrolled
in, and raises if one of them is not in the catalog. An enrollment that a learner asks for is for a
course of the catalog. A cohort enrols its learners in whatever courses it was given.
-/

open List

namespace IsaUser.Training

open Store Tables

variable {v : Setting} {t : Tables} {s s' : Store} {r : Request} {userId courseId : PyStr}

/-! ### When the views return -/

def Catalogued (v : Setting) (courseId : PyStr) : Prop :=
  ∃ detail, v.getCourse courseId = .ok detail

structure ViewsReturn (v : Setting) (t : Tables) : Prop where
  progress : ∀ userId, ∃ p, t.progress v userId = .ok p
  eligibility : ∀ userId courseId, ∃ e, t.completionEligibility v userId courseId = .ok e
  dashboard : ∀ organizationId, ∃ d, t.organizationDashboard v organizationId = .ok d

theorem Setting.getCourse_upper (v : Setting) (courseId : PyStr) :
    v.getCourse (v.upper courseId) = v.getCourse courseId := by
  rw [getCourse, findCourseEntry, v.upper_upper]
  rfl

theorem catalogued_upper : Catalogued v (v.upper courseId) ↔ Catalogued v courseId := by
  rw [Catalogued, v.getCourse_upper, Catalogued]

theorem exists_courseProgress_iff {enrollment : Enrollment} :
    (∃ p, t.courseProgress v userId enrollment = .ok p) ↔ Catalogued v enrollment.courseId := by
  simp only [courseProgress, bind_eq_ok_iff]
  exact ⟨fun ⟨_, detail, h, _⟩ => ⟨detail, h⟩, fun ⟨detail, h⟩ => ⟨_, detail, h, rfl⟩⟩

/-- **The progress of a learner is there** just if the catalog has all courses of the learner. -/
theorem exists_progress_iff :
    (∃ p, t.progress v userId = .ok p) ↔
      ∀ e ∈ (t.enrollmentsOf userId).values, Catalogued v e.courseId := by
  have hone : ∀ e : Enrollment,
      Catalogued v e.courseId ↔ ∃ p, t.courseProgress v userId e = .ok p :=
    fun e => exists_courseProgress_iff.symm
  simp only [hone]
  rw [← exists_mapM_eq_ok_iff]
  simp only [progress, bind_eq_ok_iff]
  exact ⟨fun ⟨_, r, h, _⟩ => ⟨r, h⟩, fun ⟨r, h⟩ => ⟨_, r, h, rfl⟩⟩

theorem viewsReturn_iff_progress :
    ViewsReturn v t ↔ ∀ userId, ∃ p, t.progress v userId = .ok p := by
  refine ⟨ViewsReturn.progress, fun h => ⟨h, fun userId courseId => ?_, fun organizationId => ?_⟩⟩
  · obtain ⟨p, hp⟩ := h userId
    simp only [completionEligibility, bind_eq_ok_iff]
    exact ⟨_, p, hp, rfl⟩
  · have hlearners : ∀ cohort, ∃ r, t.cohortLearners v cohort = .ok r := by
      refine fun cohort => exists_mapM_eq_ok_iff.mpr fun q _ => ?_
      obtain ⟨p, hp⟩ := h q.1
      simp only [learnerSummary, bind_eq_ok_iff]
      exact ⟨_, p, hp, rfl⟩
    have hcohort : ∀ cohort, ∃ d, t.cohortDashboard v cohort = .ok d := by
      intro cohort
      obtain ⟨r, hr⟩ := hlearners cohort
      simp only [cohortDashboard, bind_eq_ok_iff]
      exact ⟨_, r, hr, rfl⟩
    obtain ⟨cohorts, hcohorts⟩ := exists_mapM_eq_ok_iff.mpr fun cohort
      (_ : cohort ∈ t.cohorts.values.filter fun c => c.organizationId = organizationId) =>
        hcohort cohort
    simp only [organizationDashboard, bind_eq_ok_iff]
    exact ⟨_, cohorts, hcohorts, rfl⟩

/-! ### Enrollments -/

def EnrolledIn (d : Enrollments) (userId courseId : PyStr) : Prop :=
  ∃ e, (d.of userId).lookup courseId = some e

theorem enrolledIn_iff {d : Enrollments} :
    EnrolledIn d userId courseId ↔ courseId ∈ d.courses userId :=
  Dict.mem_keys_iff.symm

theorem Served.enrolledIn_iff (h : Served v s r s') :
    EnrolledIn s'.enrollments userId courseId ↔
      EnrolledIn s.enrollments userId courseId ∨ courseId ∈ coursesFor v s userId r := by
  rw [Training.enrolledIn_iff, h.courses, Dict.mem_foldl_addNew, Training.enrolledIn_iff]

theorem keyed_step (hkeyed : Keyed s.enrollments) : Keyed (step v s r).enrollments :=
  step_induction hkeyed fun _ h => (served_of_ok h).keyed hkeyed

/-! ### The exact condition -/

def Admits (v : Setting) (s : Store) : Request → Prop
  | .createCohort _ _ courseIds learnerIds =>
    learnerIds ≠ [] → ∀ courseId ∈ courseIds, Catalogued v courseId
  | .assignLearnersToCohort cohortId learnerIds _ =>
    learnerIds ≠ [] → ∀ cohort, s.cohorts.lookup cohortId = some cohort →
      ∀ courseId ∈ cohort.courseIds, Catalogued v courseId
  | _ => True

structure Enrolled (v : Setting) (d : Enrollments) : Prop where
  keyed : Keyed d
  catalogued : ∀ userId courseId, EnrolledIn d userId courseId → Catalogued v courseId

theorem viewsReturn_iff_catalogued (hkeyed : Keyed t.enrollments) :
    ViewsReturn v t ↔
      ∀ userId courseId, EnrolledIn t.enrollments userId courseId → Catalogued v courseId := by
  rw [viewsReturn_iff_progress]
  refine forall_congr' fun userId => ?_
  rw [exists_progress_iff]
  constructor
  · rintro h courseId ⟨e, he⟩
    rw [← hkeyed _ _ _ he]
    exact h e (Dict.mem_values_iff.mpr ⟨courseId, he⟩)
  · intro h e he
    obtain ⟨courseId, hfound⟩ := Dict.mem_values_iff.mp he
    rw [hkeyed _ _ _ hfound]
    exact h courseId ⟨e, hfound⟩

theorem catalogued_of_mem_coursesFor (h : serve v s r = .ok s') (hadmits : Admits v s r)
    (hmem : courseId ∈ coursesFor v s userId r) : Catalogued v courseId := by
  cases r with
  | enroll u c =>
    obtain ⟨e, h⟩ := map_snd_eq_ok_iff.mp h
    simp only [enroll, bind_eq_ok_iff] at h
    obtain ⟨detail, hdetail, -⟩ := h
    rw [coursesFor] at hmem
    split at hmem
    · obtain rfl := mem_singleton.mp hmem
      exact catalogued_upper.mpr ⟨detail, hdetail⟩
    · cases hmem
  | createCohort organizationId name courseIds learnerIds =>
    rw [coursesFor] at hmem
    split at hmem
    · next hu =>
        obtain ⟨c, hc, rfl⟩ := mem_map.mp hmem
        exact catalogued_upper.mpr (hadmits (ne_nil_of_mem hu) c hc)
    · cases hmem
  | assignLearnersToCohort cohortId learnerIds actorId =>
    rw [coursesFor] at hmem
    split at hmem
    · next hu =>
        obtain ⟨c, hc, rfl⟩ := mem_map.mp hmem
        cases hcohort : s.cohorts.lookup cohortId with
        | none =>
          rw [hcohort] at hc
          cases hc
        | some cohort =>
          rw [hcohort] at hc
          exact catalogued_upper.mpr (hadmits (ne_nil_of_mem hu) cohort hcohort c hc)
    · cases hmem
  | _ => cases hmem

theorem exists_mem_coursesFor_of_not_admits (h : ¬Admits v s r) :
    ∃ s' userId courseId, serve v s r = .ok s' ∧ courseId ∈ coursesFor v s userId r ∧
      ¬Catalogued v courseId := by
  cases r with
  | createCohort organizationId name courseIds learnerIds =>
    simp only [Admits, not_forall] at h
    obtain ⟨hne, c, hc, hnot⟩ := h
    obtain ⟨u, hu⟩ := exists_mem_of_ne_nil _ hne
    refine ⟨_, u, v.upper c, rfl, ?_, fun hcat => hnot (catalogued_upper.mp hcat)⟩
    rw [coursesFor, if_pos hu]
    exact mem_map_of_mem hc
  | assignLearnersToCohort cohortId learnerIds actorId =>
    simp only [Admits, not_forall] at h
    obtain ⟨hne, cohort, hcohort, c, hc, hnot⟩ := h
    obtain ⟨u, hu⟩ := exists_mem_of_ne_nil _ hne
    have hserve : ∃ s', serve v s (.assignLearnersToCohort cohortId learnerIds actorId) =
        .ok s' := by
      simp only [serve, map_snd_eq_ok_iff, assignLearnersToCohort, getCohort, bind_eq_ok_iff,
        orRaise_eq_ok_iff, pure_eq_ok_iff, Prod.mk.injEq]
      exact ⟨_, _, cohort, hcohort, rfl, rfl⟩
    obtain ⟨s', hserve⟩ := hserve
    refine ⟨s', u, v.upper c, hserve, ?_, fun hcat => hnot (catalogued_upper.mp hcat)⟩
    rw [coursesFor, if_pos hu, hcohort]
    exact mem_map_of_mem hc
  | _ => exact absurd trivial h

/-- **The views return all along a run** just if no learner is put in a cohort with a course that
the catalog does not have. -/
theorem viewsReturn_iff (v : Setting) (es : List Request) :
    Always (step v) (fun s => ViewsReturn v s.toTables) {} es ↔
      AllSteps (step v) (Admits v) {} es := by
  have hempty : Enrolled v ({} : Store).enrollments :=
    ⟨fun _ _ _ h => (nomatch h), fun _ _ ⟨_, h⟩ => (nomatch h)⟩
  refine always_iff_allSteps (J := fun s => Enrolled v s.enrollments) hempty ?_ ?_ ?_
  · exact fun s hs => (viewsReturn_iff_catalogued hs.keyed).mpr hs.catalogued
  · intro s r hs hadmits
    refine ⟨keyed_step hs.keyed, ?_⟩
    refine step_induction (P := fun s => ∀ u c, EnrolledIn s.enrollments u c → Catalogued v c)
      hs.catalogued fun s' hserve u c hin => ?_
    rcases (served_of_ok hserve).enrolledIn_iff.mp hin with hin | hin
    · exact hs.catalogued u c hin
    · exact catalogued_of_mem_coursesFor hserve hadmits hin
  · intro s r hs hadmits hviews
    obtain ⟨s', u, c, hserve, hmem, hnot⟩ := exists_mem_coursesFor_of_not_admits hadmits
    rw [step_of_ok hserve] at hviews
    have hserved := served_of_ok hserve
    have hin : EnrolledIn s'.enrollments u c := hserved.enrolledIn_iff.mpr (.inr hmem)
    exact hnot ((viewsReturn_iff_catalogued (hserved.keyed hs.keyed)).mp hviews u c hin)

def oneCourse : Setting where
  upper s := s
  upper_upper _ := rfl
  digest s := s
  utcNow _ := "now".toList
  courses := [⟨"F1".toList, "F1".toList, [["F1-L1".toList]]⟩]
  scoreAttempt _ _ := some (1, 1)

/-- A learner is put in a cohort of a course that the catalog does not have. -/
theorem not_viewsReturn : ¬∀ v es, Always (step v) (fun s => ViewsReturn v s.toTables) {} es := by
  intro h
  have hsteps := (h oneCourse [.createCohort "org".toList "spring".toList ["F2".toList]
    ["ada".toList]]).exec.progress "ada".toList
  have hraises : (exec (step oneCourse) {} [.createCohort "org".toList "spring".toList
      ["F2".toList] ["ada".toList]]).progress oneCourse "ada".toList =
        .error (.courseNotFound "F2".toList) := by
    rfl
  rw [hraises] at hsteps
  exact nomatch hsteps

end IsaUser.Training
