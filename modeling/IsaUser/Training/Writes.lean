import IsaUser.Training.Model

/-!
# What a Request Writes

For each request that is served, what it makes of the enrollments, of the attempts at quizzes, of
the lab submissions with their reviews, and of the completion proofs; and that whatever it changes
is written to the persistence.
-/

open List

namespace IsaUser.Training

open Store Dict

variable {v : Setting} {t : Tables} {s s' : Store} {r : Request} {userId courseId : PyStr}

/-! ### Enrollments -/

variable {d : Enrollments} {e : Enrollment}

def Enrollments.courses (d : Enrollments) (userId : PyStr) : List PyStr := (d.of userId).keys

def Keyed (d : Enrollments) : Prop :=
  ∀ userId courseId e, (d.of userId).lookup courseId = some e → e.courseId = courseId

theorem of_set {u : PyStr} {es : Dict PyStr Enrollment} :
    Enrollments.of (d.set userId es) u = if u = userId then es else d.of u := by
  rw [Enrollments.of, lookup_set]
  split <;> rfl

theorem of_set_self (d : Enrollments) (userId u : PyStr) :
    Enrollments.of (d.set userId (d.of userId)) u = d.of u := by
  rw [of_set]
  split
  · next hu => rw [hu]
  · rfl

theorem courses_put {u : PyStr} :
    (d.put userId courseId e).courses u =
      if u = userId then addNew (d.courses u) courseId else d.courses u := by
  rw [Enrollments.courses, Enrollments.put, of_set]
  split
  · next hu =>
      subst hu
      exact keys_set
  · rfl

theorem courses_put_of_some {u : PyStr} {e' : Enrollment}
    (h : (d.of userId).lookup courseId = some e) :
    (d.put userId courseId e').courses u = d.courses u := by
  have hmem : courseId ∈ d.courses userId := mem_keys_iff.mpr ⟨e, h⟩
  rw [courses_put]
  split
  · next hu =>
      subst hu
      rw [addNew, if_pos hmem]
  · rfl

theorem Keyed.put (h : Keyed d) (he : e.courseId = courseId) : Keyed (d.put userId courseId e) := by
  intro u c e'
  rw [Enrollments.put, of_set]
  split
  · next hu =>
      subst hu
      rw [lookup_set]
      split
      · next hc =>
          rintro ⟨⟩
          exact he.trans hc.symm
      · exact h u c e'
  · exact h u c e'

/-! ### The changes -/

def coursesFor (v : Setting) (s : Store) (userId : PyStr) : Request → List PyStr
  | .enroll u courseId => if userId = u then [v.upper courseId] else []
  | .createCohort _ _ courseIds learnerIds =>
    if userId ∈ learnerIds then courseIds.map v.upper else []
  | .assignLearnersToCohort cohortId learnerIds _ =>
    if userId ∈ learnerIds then
      ((s.cohorts.lookup cohortId).elim [] Cohort.courseIds).map v.upper
    else []
  | _ => []

def AttemptsAfter (v : Setting) (s : Store) (d : Dict PyStr QuizAttempt) : Request → Prop
  | .createQuizAttempt userId quizId =>
    d = s.quizAttempts.set (s.newAttempt v userId quizId).id (s.newAttempt v userId quizId)
  | .submitQuizAttempt userId attemptId answers =>
    ∃ a, s.quizAttempts.lookup attemptId = some a ∧ a.userId = userId ∧
      d = s.quizAttempts.set attemptId
        (a.submitted (v.utcNow s.readings) answers (v.scoreAttempt a.quizId answers))
  | _ => d = s.quizAttempts

def ReviewsAfter (v : Setting) (s : Store) (submissions : Dict PyStr LabSubmission)
    (records : Dict PyStr ReviewRecord) : Request → Prop
  | .submitLab labId learnerId _ result =>
    ∃ courseId,
      submissions = s.labSubmissions.set (s.labSubmissionId v labId learnerId)
        (result.submission (s.labSubmissionId v labId learnerId) labId learnerId courseId) ∧
      records = s.reviewRecords.set (s.labSubmissionId v labId learnerId)
        (result.reviewRecord (s.labSubmissionId v labId learnerId) labId learnerId courseId
          (v.utcNow s.readings))
  | .overrideReviewItem itemId verdict =>
    ∃ record, s.reviewRecords.lookup itemId = some record ∧
      (submissions = match s.labSubmissions.lookup itemId with
        | some submission => s.labSubmissions.set itemId
            (submission.override (record.override verdict (v.utcNow s.readings)) verdict)
        | none => s.labSubmissions) ∧
      records = s.reviewRecords.set itemId (record.override verdict (v.utcNow s.readings))
  | _ => submissions = s.labSubmissions ∧ records = s.reviewRecords

def ProofsAfter (v : Setting) (s : Store) (d : Dict PyStr CompletionProof) : Request → Prop
  | .completionProof userId courseId =>
    d = s.completionProofs ∨
      ∃ eligibility, s.completionEligibility v userId (v.upper courseId) = .ok eligibility ∧
        eligibility.missing = [] ∧
        d = s.completionProofs.set (s.newProof v userId (v.upper courseId) eligibility).id
          (s.newProof v userId (v.upper courseId) eligibility)
  | _ => d = s.completionProofs

structure Served (v : Setting) (s : Store) (r : Request) (s' : Store) : Prop where
  /-- The courses of a learner afterwards: new ones come last. -/
  courses : ∀ userId, s'.enrollments.courses userId =
    (coursesFor v s userId r).foldl addNew (s.enrollments.courses userId)
  keyed : Keyed s.enrollments → Keyed s'.enrollments
  attempts : AttemptsAfter v s s'.quizAttempts r
  reviews : ReviewsAfter v s s'.labSubmissions s'.reviewRecords r
  proofs : ProofsAfter v s s'.completionProofs r
  /-- What is changed is written to the persistence. -/
  saved : s'.saved = s'.toTables ∨ s' = s

/-! ### Cohorts -/

structure SameWork (t t' : Tables) : Prop where
  quizAttempts : t'.quizAttempts = t.quizAttempts
  completionProofs : t'.completionProofs = t.completionProofs
  labSubmissions : t'.labSubmissions = t.labSubmissions
  reviewRecords : t'.reviewRecords = t.reviewRecords

theorem SameWork.trans {t t' t'' : Tables} (h : SameWork t t') (h' : SameWork t' t'') :
    SameWork t t'' where
  quizAttempts := h'.quizAttempts.trans h.quizAttempts
  completionProofs := h'.completionProofs.trans h.completionProofs
  labSubmissions := h'.labSubmissions.trans h.labSubmissions
  reviewRecords := h'.reviewRecords.trans h.reviewRecords

section Assign

variable {learnerId actorId cohortId : PyStr} {courseIds learnerIds : List PyStr} {u : PyStr}

theorem sameWork_assignLearnerToCourse :
    SameWork s.toTables
      (assignLearnerToCourse v learnerId actorId cohortId s courseId).toTables := by
  rw [assignLearnerToCourse]
  cases (s.enrollmentsOf learnerId).lookup (v.upper courseId) with
  | some existing => exact ⟨rfl, rfl, rfl, rfl⟩
  | none => exact ⟨rfl, rfl, rfl, rfl⟩

theorem sameWork_assignLearners :
    SameWork s.toTables
      (learnerIds.foldl (assignLearnerToCourses v courseIds actorId cohortId) s).toTables := by
  refine foldlRecOn (motive := fun s' : Store => SameWork s.toTables s'.toTables) learnerIds _
    ⟨rfl, rfl, rfl, rfl⟩ fun s' hs' l _ => ?_
  have hdefault : SameWork s.toTables (s'.withLearner l).toTables := hs'.trans ⟨rfl, rfl, rfl, rfl⟩
  exact foldlRecOn (motive := fun s' : Store => SameWork s.toTables s'.toTables) courseIds _
    hdefault fun _ h _ _ => h.trans sameWork_assignLearnerToCourse

theorem sameWork_assignCohort {cohort : Cohort} :
    SameWork s.toTables
      (flush (learnerIds.foldl (assignLearnerToCourses v courseIds actorId cohortId)
        (s.withCohort cohortId cohort))).toTables :=
  have hcohort : SameWork s.toTables (s.withCohort cohortId cohort).toTables := ⟨rfl, rfl, rfl, rfl⟩
  hcohort.trans sameWork_assignLearners

theorem keyed_assignLearnerToCourse (h : Keyed s.enrollments) :
    Keyed (assignLearnerToCourse v learnerId actorId cohortId s courseId).enrollments := by
  rw [assignLearnerToCourse]
  cases (s.enrollmentsOf learnerId).lookup (v.upper courseId) with
  | some existing => exact h
  | none => exact h.put rfl

theorem keyed_assignLearners (h : Keyed s.enrollments) :
    Keyed
      (learnerIds.foldl (assignLearnerToCourses v courseIds actorId cohortId) s).enrollments := by
  refine foldlRecOn (motive := fun s' : Store => Keyed s'.enrollments) learnerIds _ h
    fun s' hs' l _ => ?_
  have hdefault : Keyed (s'.withLearner l).enrollments := by
    intro u
    have hof := of_set_self s'.enrollments l u
    exact hof ▸ hs' u
  exact foldlRecOn (motive := fun s' : Store => Keyed s'.enrollments) courseIds _ hdefault
    fun _ h _ _ => keyed_assignLearnerToCourse h

theorem courses_assignLearnerToCourse :
    (assignLearnerToCourse v learnerId actorId cohortId s courseId).enrollments.courses u =
      if u = learnerId then addNew (s.enrollments.courses u) (v.upper courseId)
      else s.enrollments.courses u := by
  rw [assignLearnerToCourse]
  cases hfound : (s.enrollmentsOf learnerId).lookup (v.upper courseId) with
  | some existing =>
    have hmem : v.upper courseId ∈ s.enrollments.courses learnerId :=
      mem_keys_iff.mpr ⟨existing, hfound⟩
    change s.enrollments.courses u = _
    split
    · next hu => rw [hu, addNew, if_pos hmem]
    · rfl
  | none => exact courses_put

theorem courses_assignLearnerToCourses :
    (assignLearnerToCourses v courseIds actorId cohortId s learnerId).enrollments.courses u =
      if u = learnerId then (courseIds.map v.upper).foldl addNew (s.enrollments.courses u)
      else s.enrollments.courses u := by
  have hfold : ∀ (courseIds : List PyStr) (s : Store),
      (courseIds.foldl (assignLearnerToCourse v learnerId actorId cohortId) s).enrollments.courses
          u =
        if u = learnerId then (courseIds.map v.upper).foldl addNew (s.enrollments.courses u)
        else s.enrollments.courses u := by
    intro courseIds
    induction courseIds with
    | nil =>
      intro s
      split <;> rfl
    | cons c courseIds ih =>
      intro s
      rw [foldl_cons, ih, courses_assignLearnerToCourse]
      split <;> rfl
  have hdefault : (s.withLearner learnerId).enrollments.courses u = s.enrollments.courses u :=
    congrArg Dict.keys (of_set_self s.enrollments learnerId u)
  rw [assignLearnerToCourses, hfold, hdefault]

/-- **The courses of a learner after a cohort.** -/
theorem courses_assignLearners :
    (learnerIds.foldl (assignLearnerToCourses v courseIds actorId cohortId) s).enrollments.courses
        u =
      if u ∈ learnerIds then (courseIds.map v.upper).foldl addNew (s.enrollments.courses u)
      else s.enrollments.courses u := by
  induction learnerIds generalizing s with
  | nil => rfl
  | cons l learnerIds ih =>
    rw [foldl_cons, ih, courses_assignLearnerToCourses]
    by_cases hl : u = l
    · -- a learner who is listed again is enrolled in the same courses
      rw [if_pos (mem_cons.mpr (.inl hl))]
      split
      · exact foldl_addNew_idem _ _
      · rfl
    · simp [hl]

end Assign

/-! ### Requests -/

theorem Served.of_rest (hcourses : ∀ u, coursesFor v s u r = [])
    (henrollments : s'.enrollments = s.enrollments)
    (hattempts : AttemptsAfter v s s'.quizAttempts r)
    (hreviews : ReviewsAfter v s s'.labSubmissions s'.reviewRecords r)
    (hproofs : ProofsAfter v s s'.completionProofs r) (hsaved : s'.saved = s'.toTables ∨ s' = s) :
    Served v s r s' where
  courses u := by
    rw [henrollments, hcourses]
    rfl
  keyed h := by
    rw [henrollments]
    exact h
  attempts := hattempts
  reviews := hreviews
  proofs := hproofs
  saved := hsaved

structure Recorded (s s' : Store) : Prop where
  courses : ∀ u, s'.enrollments.courses u = s.enrollments.courses u
  keyed : Keyed s.enrollments → Keyed s'.enrollments
  work : SameWork s.toTables s'.toTables
  saved : s'.saved = s'.toTables

theorem recorded_of_ok {lessonId activityType : PyStr} {positionSeconds : Option ℤ}
    {assetKey : Option PyStr} {required : Bool} {metadata : JsonDict} {event : LessonActivityEvent}
    (h : s.recordLessonActivity v userId courseId lessonId activityType positionSeconds assetKey
      required metadata = .ok (event, s')) : Recorded s s' := by
  simp only [recordLessonActivity, bind_eq_ok_iff, orRaise_eq_ok_iff] at h
  obtain ⟨detail, -, enrollment, henrollment, -, -, -, rfl⟩ := h
  refine ⟨fun u => courses_put_of_some henrollment, fun hkeyed => ?_, ⟨rfl, rfl, rfl, rfl⟩, rfl⟩
  have hcourse : enrollment.courseId = v.upper courseId := hkeyed _ _ _ henrollment
  exact hkeyed.put hcourse

theorem served_enroll {e : Enrollment} (h : s.enroll v userId courseId = .ok (e, s')) :
    Served v s (.enroll userId courseId) s' := by
  simp only [enroll, bind_eq_ok_iff] at h
  obtain ⟨detail, -, h⟩ := h
  cases hfound : (s.enrollmentsOf userId).lookup (v.upper courseId) with
  | some existing =>
    simp only [hfound] at h
    obtain ⟨-, rfl⟩ := Prod.mk.inj (pure_eq_ok_iff.mp h)
    refine ⟨fun u => ?_, id, rfl, ⟨rfl, rfl⟩, rfl, .inr rfl⟩
    have hmem : v.upper courseId ∈ s.enrollments.courses userId :=
      mem_keys_iff.mpr ⟨existing, hfound⟩
    rw [coursesFor]
    split
    · next hu =>
        subst hu
        exact (foldl_addNew_of_subset (by simpa using hmem)).symm
    · rfl
  | none =>
    simp only [hfound] at h
    obtain ⟨-, rfl⟩ := Prod.mk.inj (pure_eq_ok_iff.mp h)
    refine ⟨fun u => courses_put.trans ?_, fun h => h.put rfl, rfl, ⟨rfl, rfl⟩, rfl, .inl rfl⟩
    rw [coursesFor]
    split <;> rfl

theorem served_submitWork {lessonId content : PyStr} {submission : Submission}
    (h : s.submitWork v userId courseId lessonId content = .ok (submission, s')) :
    Served v s (.submitWork userId courseId lessonId content) s' := by
  simp only [submitWork, bind_eq_ok_iff, orRaise_eq_ok_iff] at h
  obtain ⟨detail, -, enrollment, henrollment, -, -, h⟩ := h
  by_cases hcontent : content.strip = []
  · simp only [hcontent] at h
    obtain ⟨-, rfl⟩ := h
    exact .of_rest (fun _ => rfl) rfl rfl ⟨rfl, rfl⟩ rfl (.inl rfl)
  · simp only [hcontent, ne_eq, not_false_eq_true, if_true, bind_eq_ok_iff] at h
    obtain ⟨⟨event, s''⟩, hrecord, -, rfl⟩ := h
    obtain ⟨hcourses, hkeyed, hwork, hsaved⟩ := recorded_of_ok hrecord
    refine ⟨fun u => (hcourses u).trans (courses_put_of_some henrollment), fun h => ?_,
      hwork.quizAttempts, ⟨hwork.labSubmissions, hwork.reviewRecords⟩, hwork.completionProofs,
      .inl hsaved⟩
    have hcourse : enrollment.courseId = v.upper courseId := h _ _ _ henrollment
    exact hkeyed (h.put hcourse)

theorem served_completionProof {proof : CompletionProof}
    (h : s.completionProof v userId courseId = .ok (proof, s')) :
    Served v s (.completionProof userId courseId) s' := by
  simp only [completionProof, bind_eq_ok_iff, check_eq_ok_iff] at h
  obtain ⟨-, -, eligibility, heligibility, -, hmissing, h⟩ := h
  split at h
  · obtain ⟨-, rfl⟩ := Prod.mk.inj (pure_eq_ok_iff.mp h)
    exact .of_rest (fun _ => rfl) rfl rfl ⟨rfl, rfl⟩ (.inl rfl) (.inr rfl)
  · obtain ⟨-, rfl⟩ := Prod.mk.inj (pure_eq_ok_iff.mp h)
    exact .of_rest (fun _ => rfl) rfl rfl ⟨rfl, rfl⟩
      (.inr ⟨eligibility, heligibility, hmissing, rfl⟩) (.inl rfl)

variable (v s) in
theorem served_createCohort (organizationId name : PyStr) (courseIds learnerIds : List PyStr) :
    Served v s (.createCohort organizationId name courseIds learnerIds)
      (s.createCohort v organizationId name courseIds learnerIds).2 := by
  have hwork : SameWork s.toTables
      (s.createCohort v organizationId name courseIds learnerIds).2.toTables :=
    sameWork_assignCohort (s := s.tick)
  refine ⟨fun u => Eq.trans courses_assignLearners ?_,
    fun h => keyed_assignLearners (s := s.tick.withCohort _ _) h, hwork.quizAttempts,
    ⟨hwork.labSubmissions, hwork.reviewRecords⟩, hwork.completionProofs, .inl rfl⟩
  have hupper : v.upper ∘ v.upper = v.upper := funext v.upper_upper
  rw [coursesFor]
  simp only [mem_eraseDups, map_map, hupper]
  split <;> rfl

theorem served_assignLearnersToCohort {cohortId actorId : PyStr} {learnerIds : List PyStr}
    {assigned : Cohort}
    (h : s.assignLearnersToCohort v cohortId learnerIds actorId = .ok (assigned, s')) :
    Served v s (.assignLearnersToCohort cohortId learnerIds actorId) s' := by
  simp only [assignLearnersToCohort, getCohort, bind_eq_ok_iff, orRaise_eq_ok_iff] at h
  obtain ⟨cohort, hcohort, -, rfl⟩ := h
  generalize hupdated : ({ cohort with
    learnerIds := (cohort.learnerIds ++ learnerIds).eraseDups } : Cohort) = updated
  have hwork : SameWork s.toTables
      (flush (learnerIds.foldl (assignLearnerToCourses v cohort.courseIds actorId cohortId)
        (s.withCohort cohortId updated))).toTables :=
    sameWork_assignCohort
  refine ⟨fun u => Eq.trans courses_assignLearners ?_,
    fun h => keyed_assignLearners (s := s.withCohort _ _) h, hwork.quizAttempts,
    ⟨hwork.labSubmissions, hwork.reviewRecords⟩, hwork.completionProofs, .inl rfl⟩
  rw [coursesFor, hcohort]
  split <;> rfl

/-- **What a request writes.** -/
theorem served_of_ok (h : serve v s r = .ok s') : Served v s r s' := by
  cases r with
  | enroll userId courseId =>
    obtain ⟨e, h⟩ := map_snd_eq_ok_iff.mp h
    exact served_enroll h
  | recordLessonActivity userId courseId lessonId activityType position assetKey required
      metadata =>
      obtain ⟨event, h⟩ := map_snd_eq_ok_iff.mp h
      obtain ⟨hcourses, hkeyed, hwork, hsaved⟩ := recorded_of_ok h
      exact ⟨hcourses, hkeyed, hwork.quizAttempts, ⟨hwork.labSubmissions, hwork.reviewRecords⟩,
        hwork.completionProofs, .inl hsaved⟩
  | submitWork userId courseId lessonId content =>
    obtain ⟨submission, h⟩ := map_snd_eq_ok_iff.mp h
    exact served_submitWork h
  | createQuizAttempt userId quizId =>
    obtain rfl := pure_eq_ok_iff.mp h
    exact .of_rest (fun _ => rfl) rfl rfl ⟨rfl, rfl⟩ rfl (.inl rfl)
  | submitQuizAttempt userId attemptId answers =>
    obtain ⟨result, h⟩ := map_snd_eq_ok_iff.mp h
    simp only [submitQuizAttempt, getOwnedQuizAttempt, bind_eq_ok_iff, orRaise_eq_ok_iff,
      check_eq_ok_iff, pure_eq_ok_iff] at h
    obtain ⟨attempt, ⟨_, hfound, -, howner, rfl⟩, -, rfl⟩ := h
    exact .of_rest (fun _ => rfl) rfl ⟨_, hfound, howner, rfl⟩ ⟨rfl, rfl⟩ rfl (.inl rfl)
  | submitLab labId learnerId metadata result =>
    obtain ⟨submission, h⟩ := map_snd_eq_ok_iff.mp h
    simp only [submitLab, bind_eq_ok_iff] at h
    obtain ⟨courseId, -, -, -, -, rfl⟩ := h
    exact .of_rest (fun _ => rfl) rfl rfl ⟨courseId, rfl, rfl⟩ rfl (.inl rfl)
  | overrideReviewItem itemId verdict =>
    obtain ⟨record, h⟩ := map_snd_eq_ok_iff.mp h
    simp only [overrideReviewItem, bind_eq_ok_iff, orRaise_eq_ok_iff] at h
    obtain ⟨record, hfound, -, rfl⟩ := h
    exact .of_rest (fun _ => rfl) rfl rfl ⟨record, hfound, rfl, rfl⟩ rfl (.inl rfl)
  | createSandboxSession userId courseId lessonId =>
    obtain ⟨session, h⟩ := map_snd_eq_ok_iff.mp h
    simp only [createSandboxSession, bind_eq_ok_iff] at h
    obtain ⟨-, -, -, rfl⟩ := h
    exact .of_rest (fun _ => rfl) rfl rfl ⟨rfl, rfl⟩ rfl (.inl rfl)
  | evaluateSandbox userId sessionId artifact rubric outcome =>
    obtain ⟨evaluation, h⟩ := map_snd_eq_ok_iff.mp h
    simp only [evaluateSandbox, bind_eq_ok_iff] at h
    obtain ⟨session, -, -, -, -, rfl⟩ := h
    exact .of_rest (fun _ => rfl) rfl rfl ⟨rfl, rfl⟩ rfl (.inl rfl)
  | completionProof userId courseId =>
    obtain ⟨proof, h⟩ := map_snd_eq_ok_iff.mp h
    exact served_completionProof h
  | createCohort organizationId name courseIds learnerIds =>
    obtain rfl := pure_eq_ok_iff.mp h
    exact served_createCohort v s organizationId name courseIds learnerIds
  | assignLearnersToCohort cohortId learnerIds actorId =>
    obtain ⟨cohort, h⟩ := map_snd_eq_ok_iff.mp h
    exact served_assignLearnersToCohort h
  | recordAttendance cohortId learnerId courseId attendanceStatus actorId metadata =>
    obtain ⟨event, h⟩ := map_snd_eq_ok_iff.mp h
    simp only [recordAttendance, bind_eq_ok_iff] at h
    obtain ⟨cohort, -, -, -, -, -, -, rfl⟩ := h
    exact .of_rest (fun _ => rfl) rfl rfl ⟨rfl, rfl⟩ rfl (.inl rfl)

end IsaUser.Training
