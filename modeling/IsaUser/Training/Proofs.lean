import IsaUser.Training.Views

/-!
# Completion Proofs Are Earned

A completion proof is for a learner who is enrolled, has completed every lesson of the course, has
passed a quiz at the first evaluation, and has passed a lab or a sandbox evaluation of the course.
The store issues some that are not earned: a text that is handed in for a lesson counts as a lab,
an attempt at a quiz can be submitted again when its answers are known, a verdict that rejects a
lab submission may leave it passed, and percentages are rounded up.
-/

open Option

namespace IsaUser.Training

open Store Dict

variable {v : Setting} {t : Tables} {s s' : Store} {r : Request} {userId courseId : PyStr}
  {now : PyStr}

/-! ### What a proof is for -/

def ReviewRecord.Passes (record : ReviewRecord) : Prop :=
  if record.overrideReason.isSome then record.finalStatus = some .approved
  else record.status = .approved

def QuizAttempt.Passes (a : QuizAttempt) : Prop :=
  a.status = .evaluated ∧ ∃ score total, a.score = some score ∧ a.total = some total ∧
    0 < total ∧ 60 * total ≤ 100 * score ∧ a.first = some (score, total)

def Tables.lessonsDone (t : Tables) (userId courseId : PyStr) : Finset PyStr :=
  ((t.completedOf userId).lookup courseId).getD ∅

/-- The learner has done all that a completion proof of the course says. -/
structure Earned (v : Setting) (t : Tables) (userId courseId : PyStr) : Prop where
  enrolled : EnrolledIn t.enrollments userId courseId
  lessons : ∃ detail, v.getCourse courseId = .ok detail ∧
    ∀ lesson ∈ detail.lessonIds, lesson ∈ t.lessonsDone userId courseId
  quiz : ∃ a ∈ t.attemptsOf userId, a.Passes
  lab : (∃ submission ∈ t.labSubmissions.values, submission.learnerId = userId ∧
      submission.courseId = courseId ∧
      ∃ record, t.reviewRecords.lookup submission.submissionId = some record ∧ record.Passes) ∨
    t.sandboxPassed userId courseId = true

def IssuesEarned (v : Setting) (s : Store) (r : Request) : Prop :=
  ∀ id proof, s.completionProofs.lookup id = none →
    (step v s r).completionProofs.lookup id = some proof →
      Earned v s.toTables proof.learnerId proof.courseId

/-! ### What misleads the checks -/

def NotRoundedUp (v : Setting) (t : Tables) (userId courseId : PyStr) : Prop :=
  ∀ detail ∈ (v.getCourse courseId).toOption,
    100 ≤ percentOf (t.completedIn userId courseId detail.lessonIds).length
        detail.lessonIds.length →
      ∀ lesson ∈ detail.lessonIds, lesson ∈ t.lessonsDone userId courseId

def QuizAttempt.atSixty (a : QuizAttempt) : Bool :=
  match a.score, a.total with
  | some score, some total => 0 < total ∧ 60 * total ≤ 100 * score
  | _, _ => false

instance (v : Setting) (t : Tables) (userId courseId : PyStr) :
    Decidable (NotRoundedUp v t userId courseId) :=
  inferInstanceAs (Decidable (∀ detail ∈ (v.getCourse courseId).toOption,
    100 ≤ percentOf (t.completedIn userId courseId detail.lessonIds).length
        detail.lessonIds.length →
      ∀ lesson ∈ detail.lessonIds, lesson ∈ t.lessonsDone userId courseId))

def ScoreNotRoundedUp (t : Tables) (userId : PyStr) : Prop :=
  (∃ a ∈ t.attemptsOf userId, ∃ p ∈ a.percent, 60 ≤ p) → ∃ a ∈ t.attemptsOf userId, a.atSixty = true
  deriving Decidable

def NotByTexts (t : Tables) (userId courseId : PyStr) : Prop :=
  t.lessonTextPassed userId courseId = true →
    t.labSubmissionPassed userId courseId = true ∨ t.sandboxPassed userId courseId = true
  deriving Decidable

/-- The request does not mislead the checks: it gives no other score to an attempt that has one, no
verdict other than an approval leaves a lab submission passed, and a proof is asked for where
neither rounding nor texts of lessons decide. -/
def Sound (v : Setting) (s : Store) : Request → Prop
  | .submitQuizAttempt userId attemptId answers =>
    ∀ a ∈ s.quizAttempts.lookup attemptId, a.userId = userId →
      ∀ first ∈ a.first, ∀ result ∈ v.scoreAttempt a.quizId answers, result = first
  | .overrideReviewItem itemId verdict =>
    ∀ record ∈ s.reviewRecords.lookup itemId, verdict.finalStatus ≠ .approved →
      verdict.passed.getD record.passed = false
  | .completionProof userId courseId =>
    NotRoundedUp v s.toTables userId (v.upper courseId) ∧
      ScoreNotRoundedUp s.toTables userId ∧
      NotByTexts s.toTables userId (v.upper courseId)
  | _ => True

instance Sound.decidable (v : Setting) (s : Store) : (r : Request) → Decidable (Sound v s r)
  | .submitQuizAttempt userId attemptId answers =>
    inferInstanceAs (Decidable (∀ a ∈ s.quizAttempts.lookup attemptId, a.userId = userId →
      ∀ first ∈ a.first, ∀ result ∈ v.scoreAttempt a.quizId answers, result = first))
  | .overrideReviewItem itemId verdict =>
    inferInstanceAs (Decidable (∀ record ∈ s.reviewRecords.lookup itemId,
      verdict.finalStatus ≠ .approved → verdict.passed.getD record.passed = false))
  | .completionProof userId courseId =>
    inferInstanceAs (Decidable (NotRoundedUp v s.toTables userId (v.upper courseId) ∧
      ScoreNotRoundedUp s.toTables userId ∧
      NotByTexts s.toTables userId (v.upper courseId)))
  | .enroll .. => .isTrue trivial
  | .recordLessonActivity .. => .isTrue trivial
  | .submitWork .. => .isTrue trivial
  | .createQuizAttempt .. => .isTrue trivial
  | .submitLab .. => .isTrue trivial
  | .createSandboxSession .. => .isTrue trivial
  | .evaluateSandbox .. => .isTrue trivial
  | .createCohort .. => .isTrue trivial
  | .assignLearnersToCohort .. => .isTrue trivial
  | .recordAttendance .. => .isTrue trivial

/-! ### What a sound run keeps -/

/-- What the store keeps of an attempt: no score yet, or the one of its first evaluation. -/
def QuizAttempt.Settled (a : QuizAttempt) : Prop :=
  (a.score = none ∧ a.total = none ∧ a.first = none) ∨
    (a.status = .evaluated ∧
      ∃ first, a.first = some first ∧ a.score = some first.1 ∧ a.total = some first.2)

def Reviewed (t : Tables) (id : PyStr) (submission : LabSubmission) : Prop :=
  submission.submissionId = id ∧ ∃ record, t.reviewRecords.lookup id = some record ∧
    record.passed = submission.passed ∧ (record.passed = true → record.Passes)

structure Honest (t : Tables) : Prop where
  keyed : Keyed t.enrollments
  settled : ∀ id a, t.quizAttempts.lookup id = some a → a.Settled
  reviewed : ∀ id submission, t.labSubmissions.lookup id = some submission →
    Reviewed t id submission

theorem QuizAttempt.Settled.submitted {a : QuizAttempt} (h : a.Settled) {answers : JsonDict}
    {result : Option (ℕ × ℕ)} (hsame : ∀ first ∈ a.first, ∀ x ∈ result, x = first) :
    (a.submitted now answers result).Settled := by
  rcases h with ⟨hscore, htotal, hfirst⟩ | ⟨hstatus, first, hfirst, hscore, htotal⟩
  · rcases result with _ | ⟨score, total⟩
    · exact .inl ⟨hscore, htotal, hfirst⟩
    · refine .inr ⟨rfl, (score, total), ?_, rfl, rfl⟩
      rw [QuizAttempt.submitted, hfirst]
      rfl
  · rcases result with _ | ⟨score, total⟩
    · exact .inr ⟨rfl, first, hfirst, hscore, htotal⟩
    · obtain rfl : (score, total) = first := hsame first hfirst _ rfl
      refine .inr ⟨rfl, (score, total), ?_, rfl, rfl⟩
      rw [QuizAttempt.submitted, hfirst]
      rfl

theorem LabAdapterResult.passes_reviewRecord {result : LabAdapterResult}
    {submissionId labId learnerId course : PyStr}
    (h : (result.reviewRecord submissionId labId learnerId course now).passed = true) :
    (result.reviewRecord submissionId labId learnerId course now).Passes := by
  have hpassed : result.passed = true := h
  rw [ReviewRecord.Passes, if_neg (by simp [LabAdapterResult.reviewRecord]),
    LabAdapterResult.reviewRecord, if_pos hpassed]

theorem ReviewRecord.passes_override {record : ReviewRecord} {verdict : Verdict}
    (hverdict : verdict.finalStatus ≠ .approved → verdict.passed.getD record.passed = false)
    (h : (record.override verdict now).passed = true) : (record.override verdict now).Passes := by
  by_contra hne
  have hpassed : verdict.passed.getD record.passed = true := h
  rw [hverdict fun heq => hne (congrArg some heq)] at hpassed
  exact nomatch hpassed

theorem settled_of_served (hs : Honest s.toTables) (hserved : Served v s r s')
    (hsound : Sound v s r) (id : PyStr) (a : QuizAttempt)
    (ha : s'.quizAttempts.lookup id = some a) : a.Settled := by
  have hattempts := hserved.attempts
  cases r with
  | createQuizAttempt userId quizId =>
    rw [hattempts, lookup_set] at ha
    split at ha
    · obtain rfl := some.inj ha
      exact .inl ⟨rfl, rfl, rfl⟩
    · exact hs.settled id a ha
  | submitQuizAttempt userId attemptId answers =>
    obtain ⟨a', hfound, howner, hattempts⟩ := hattempts
    rw [hattempts, lookup_set] at ha
    split at ha
    · obtain rfl := some.inj ha
      exact (hs.settled attemptId a' hfound).submitted (hsound a' hfound howner)
    · exact hs.settled id a ha
  | _ =>
    have hsame : s'.quizAttempts = s.quizAttempts := hattempts
    exact hs.settled id a (hsame ▸ ha)

theorem reviewed_of_served (hs : Honest s.toTables) (hserved : Served v s r s')
    (hsound : Sound v s r) (id : PyStr) (submission : LabSubmission)
    (h : s'.labSubmissions.lookup id = some submission) : Reviewed s'.toTables id submission := by
  have hreviews := hserved.reviews
  cases r with
  | submitLab labId learnerId metadata result =>
    obtain ⟨course, hsubmissions, hrecords⟩ := hreviews
    rw [hsubmissions, lookup_set] at h
    rw [Reviewed, hrecords, lookup_set]
    split at h
    · next hid =>
        obtain rfl := some.inj h
        rw [if_pos hid]
        exact ⟨hid.symm, _, rfl, rfl, LabAdapterResult.passes_reviewRecord⟩
    · next hid =>
        rw [if_neg hid]
        exact hs.reviewed id submission h
  | overrideReviewItem itemId verdict =>
    obtain ⟨record, hfound, hsubmissions, hrecords⟩ := hreviews
    have hpasses : (record.override verdict (v.utcNow s.readings)).passed = true →
        (record.override verdict (v.utcNow s.readings)).Passes :=
      ReviewRecord.passes_override (hsound record hfound)
    rw [Reviewed, hrecords, lookup_set]
    rw [hsubmissions] at h
    cases hsub : s.labSubmissions.lookup itemId with
    | none =>
      simp only [hsub] at h
      have hne : id ≠ itemId := by
        rintro rfl
        rw [hsub] at h
        cases h
      rw [if_neg hne]
      exact hs.reviewed id submission h
    | some old =>
      simp only [hsub, lookup_set] at h
      split at h
      · next hid =>
          obtain rfl := some.inj h
          rw [if_pos hid]
          exact ⟨(hs.reviewed itemId old hsub).1.trans hid.symm, _, rfl, rfl, hpasses⟩
      · next hid =>
          rw [if_neg hid]
          exact hs.reviewed id submission h
  | _ =>
    obtain ⟨hsubmissions, hrecords⟩ := hreviews
    rw [Reviewed, hrecords]
    exact hs.reviewed id submission (hsubmissions ▸ h)

theorem honest_step (hs : Honest s.toTables) (hsound : Sound v s r) :
    Honest (step v s r).toTables := by
  refine step_induction (P := fun s => Honest s.toTables) hs fun s' hserve => ?_
  have hserved := served_of_ok hserve
  exact ⟨hserved.keyed hs.keyed, settled_of_served hs hserved hsound,
    reviewed_of_served hs hserved hsound⟩

/-! ### What the checks establish -/

theorem exists_of_lookup_lessonProgress {p : TrainingProgress} {lp : LessonProgress}
    (hp : t.progress v userId = .ok p) (h : p.lessonProgress.lookup courseId = some lp) :
    ∃ e ∈ (t.enrollmentsOf userId).values, e.courseId = courseId ∧
      ∃ detail, v.getCourse courseId = .ok detail ∧
        lp.percentComplete = percentOf (t.completedIn userId courseId detail.lessonIds).length
          detail.lessonIds.length := by
  simp only [Tables.progress, bind_eq_ok_iff, pure_eq_ok_iff] at hp
  obtain ⟨courses, hcourses, rfl⟩ := hp
  obtain ⟨⟨active, lp'⟩, hmem, heq⟩ := List.mem_map.mp (mem_of_lookup_ofList h)
  obtain ⟨e, he, hone⟩ := exists_of_mem_mapM hcourses hmem
  simp only [Tables.courseProgress, bind_eq_ok_iff] at hone
  obtain ⟨detail, hdetail, rfl, rfl⟩ := hone
  obtain ⟨rfl, rfl⟩ := Prod.mk.inj heq
  exact ⟨e, he, rfl, detail, hdetail, rfl⟩

theorem exists_of_bestQuizScorePercent {p : ℤ} (h : t.bestQuizScorePercent userId = some p) :
    ∃ a ∈ t.attemptsOf userId, a.percent = some p := by
  have hfold : ∀ (ps : List ℤ) (best : Option ℤ),
      ps.foldl (fun best percent => some (best.elim percent (max · percent))) best = some p →
        best = some p ∨ p ∈ ps := by
    intro ps
    induction ps with
    | nil => exact fun best h => .inl h
    | cons q ps ih =>
      intro best h
      rcases ih _ h with hbest | hmem
      · cases best with
        | none => exact .inr (by simp [← some.inj hbest])
        | some b =>
          have hmax : max b q = p := some.inj hbest
          rcases max_choice b q with hb | hq
          · exact .inl (congrArg some (hb.symm.trans hmax))
          · exact .inr (List.mem_cons.mpr (.inl (hmax.symm.trans hq)))
      · exact .inr (List.mem_cons_of_mem _ hmem)
  rcases hfold _ _ h with hnone | hmem
  · exact nomatch hnone
  · exact List.mem_filterMap.mp hmem

theorem of_missing_eq_nil {e : Eligibility}
    (h : t.completionEligibility v userId courseId = .ok e) (hmissing : e.missing = []) :
    ∃ p, t.progress v userId = .ok p ∧
      100 ≤ ((p.lessonProgress.lookup (v.upper courseId)).map
        LessonProgress.percentComplete).getD 0 ∧
      (∃ q, t.bestQuizScorePercent userId = some q ∧ 60 ≤ q) ∧
      t.labStatus userId (v.upper courseId) = true := by
  simp only [Tables.completionEligibility, bind_eq_ok_iff, pure_eq_ok_iff] at h
  obtain ⟨p, hp, rfl⟩ := h
  simp only [List.append_eq_nil_iff] at hmissing
  obtain ⟨⟨⟨-, hprogress⟩, hquiz⟩, hlab⟩ := hmissing
  refine ⟨p, hp, ?_, ?_, ?_⟩
  · by_contra hlt
    rw [if_pos (not_le.mp hlt)] at hprogress
    cases hprogress
  · cases hbest : t.bestQuizScorePercent userId with
    | none =>
      rw [hbest] at hquiz
      cases hquiz
    | some q =>
      by_contra hlt
      rw [hbest, if_pos (by simpa using hlt)] at hquiz
      cases hquiz
  · by_contra hnot
    rw [if_neg hnot] at hlab
    cases hlab

theorem QuizAttempt.Settled.passes {a : QuizAttempt} (h : a.Settled) (hsixty : a.atSixty = true) :
    a.Passes := by
  rcases h with ⟨hscore, -, -⟩ | ⟨hstatus, ⟨score, total⟩, hfirst, hscore, htotal⟩
  · simp only [QuizAttempt.atSixty, hscore] at hsixty
    exact nomatch hsixty
  · simp only [QuizAttempt.atSixty, hscore, htotal, decide_eq_true_eq] at hsixty
    exact ⟨hstatus, score, total, hscore, htotal, hsixty.1, hsixty.2, hfirst⟩

/-- **What the checks of a proof establish**, where nothing misleads them. -/
theorem earned_of_eligible {e : Eligibility} (ht : Honest t)
    (hrounded : NotRoundedUp v t userId (v.upper courseId))
    (hscore : ScoreNotRoundedUp t userId) (htexts : NotByTexts t userId (v.upper courseId))
    (h : t.completionEligibility v userId courseId = .ok e) (hmissing : e.missing = []) :
    Earned v t userId (v.upper courseId) := by
  obtain ⟨p, hp, hprogress, ⟨q, hbest, hq⟩, hlab⟩ := of_missing_eq_nil h hmissing
  obtain ⟨lp, hlp⟩ : ∃ lp, p.lessonProgress.lookup (v.upper courseId) = some lp := by
    cases hfound : p.lessonProgress.lookup (v.upper courseId) with
    | none =>
      rw [hfound] at hprogress
      exact absurd hprogress (by decide)
    | some lp => exact ⟨lp, rfl⟩
  obtain ⟨enrollment, henrollment, hcourse, detail, hdetail, hpercent⟩ :=
    exists_of_lookup_lessonProgress hp hlp
  rw [hlp, map_some, hpercent] at hprogress
  have hdetailed : detail ∈ (v.getCourse (v.upper courseId)).toOption := by
    rw [hdetail]
    rfl
  refine ⟨?_, ⟨detail, hdetail, hrounded detail hdetailed hprogress⟩, ?_, ?_⟩
  · obtain ⟨k, hk⟩ := mem_values_iff.mp henrollment
    obtain rfl : k = v.upper courseId := (ht.keyed _ _ _ hk).symm.trans hcourse
    exact ⟨enrollment, hk⟩
  · obtain ⟨a, ha, hapercent⟩ := exists_of_bestQuizScorePercent hbest
    obtain ⟨a', ha', hsixty⟩ := hscore ⟨a, ha, q, hapercent, hq⟩
    obtain ⟨id, hid⟩ := mem_values_iff.mp (List.mem_filter.mp ha').1
    exact ⟨a', ha', (ht.settled id a' hid).passes hsixty⟩
  · have hpassed : t.labSubmissionPassed userId (v.upper courseId) = true ∨
        t.sandboxPassed userId (v.upper courseId) = true := by
      rw [Tables.labStatus, Bool.or_eq_true, Bool.or_eq_true] at hlab
      rcases hlab with hlab | htext
      · exact hlab
      · exact htexts htext
    refine hpassed.imp_left fun hsub => ?_
    rw [Tables.labSubmissionPassed, List.any_eq_true] at hsub
    obtain ⟨submission, hmem, hsub⟩ := hsub
    obtain ⟨hlearner, hcourseId, hsub⟩ := of_decide_eq_true hsub
    obtain ⟨id, hid⟩ := mem_values_iff.mp hmem
    obtain ⟨hidEq, record, hrecord, hsame, hpasses⟩ := ht.reviewed id submission hid
    rw [hidEq, hrecord] at hsub
    have hpassed : record.passed = true := by
      rcases hsub with hsub | hsub
      · rw [hsame, hsub]
      · exact some.inj hsub
    exact ⟨submission, hmem, hlearner, hcourseId, record, hidEq ▸ hrecord, hpasses hpassed⟩

theorem issuesEarned_of_sound (hs : Honest s.toTables) (hsound : Sound v s r) :
    IssuesEarned v s r := by
  intro id proof hnone hfound
  cases hserve : serve v s r with
  | error e =>
    rw [step, hserve, hnone] at hfound
    cases hfound
  | ok s' =>
    rw [step_of_ok hserve] at hfound
    have hproofs := (served_of_ok hserve).proofs
    cases r with
    | completionProof userId courseId =>
      rcases hproofs with hsame | ⟨e, heligible, hmissing, hset⟩
      · rw [hsame, hnone] at hfound
        cases hfound
      · rw [hset, lookup_set] at hfound
        split at hfound
        · obtain rfl := some.inj hfound
          obtain ⟨hrounded, hscore, htexts⟩ := hsound
          rw [← v.upper_upper courseId] at hrounded htexts
          have hearned := earned_of_eligible hs hrounded hscore htexts heligible hmissing
          rw [v.upper_upper] at hearned
          exact hearned
        · rw [hnone] at hfound
          cases hfound
    | _ =>
      have hsame : s'.completionProofs = s.completionProofs := hproofs
      rw [hsame, hnone] at hfound
      cases hfound

/-- **In a sound run every proof is earned** at the moment when it is issued. -/
theorem proofs_earned (v : Setting) (es : List Request) (h : AllSteps (step v) (Sound v) {} es) :
    AllSteps (step v) (IssuesEarned v) {} es :=
  h.imp (J := fun s => Honest s.toTables)
    ⟨fun _ _ _ h => (nomatch h), fun _ _ h => (nomatch h), fun _ _ h => (nomatch h)⟩
    (fun _ _ hs hsound => honest_step hs hsound)
    fun _ _ hs hsound => issuesEarned_of_sound hs hsound

def lessonAndQuiz : List Request :=
  [.enroll "ada".toList "F1".toList,
   .submitWork "ada".toList "F1".toList "F1-L1".toList "done".toList,
   .createQuizAttempt "ada".toList "entry".toList,
   .submitQuizAttempt "ada".toList "qat_ada:entry:now".toList []]

/-- A learner who also passes the lab, and then asks for a proof. -/
theorem proofs_earned_lab :
    AllSteps (step oneCourse) (IssuesEarned oneCourse) {}
        (lessonAndQuiz ++ [.submitLab "F1-agent-hello".toList "ada".toList []
          ⟨true, true, 100, true⟩,
          .completionProof "ada".toList "F1".toList]) ∧
      (exec (step oneCourse) {}
        (lessonAndQuiz ++ [.submitLab "F1-agent-hello".toList "ada".toList []
          ⟨true, true, 100, true⟩,
          .completionProof "ada".toList "F1".toList])).completionProofs.keys =
        ["proof_ada:F1".toList] :=
  ⟨proofs_earned _ _ (by decide +kernel), by decide +kernel⟩

/-- A learner who asks for a proof without a lab. -/
theorem not_proofs_earned : ¬∀ v es, AllSteps (step v) (IssuesEarned v) {} es := by
  intro h
  have hsteps := (allSteps_append.mp (h oneCourse
    (lessonAndQuiz ++ [.completionProof "ada".toList "F1".toList]))).2.1
  have hnone : (exec (step oneCourse) {} lessonAndQuiz).completionProofs.lookup
      "proof_ada:F1".toList = none := by decide +kernel
  have hissued : (exec (step oneCourse) {}
      (lessonAndQuiz ++ [.completionProof "ada".toList "F1".toList])).completionProofs.lookup
        "proof_ada:F1".toList = some
          { id := "proof_ada:F1".toList, learnerId := "ada".toList, courseId := "F1".toList
            issuedAt := "now".toList, progressPercent := 100, quizScorePercent := 100
            code := "isa-proof-ada:F1".toList } := by
    decide +kernel
  have hlabs : (exec (step oneCourse) {} lessonAndQuiz).labSubmissions.values = [] := by
    decide +kernel
  have hsandbox : (exec (step oneCourse) {} lessonAndQuiz).sandboxPassed "ada".toList "F1".toList =
      false := by decide +kernel
  rcases (hsteps _ _ hnone hissued).lab with ⟨submission, hmem, -⟩ | hpassed
  · rw [hlabs] at hmem
    exact nomatch hmem
  · rw [hsandbox] at hpassed
    exact nomatch hpassed

/-- A lesson of 200 is missing. -/
example : percent 199 200 = 100 := by decide +kernel

end IsaUser.Training
