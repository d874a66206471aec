import IsaUser.Lib.Checks
import IsaUser.Lib.Dict
import IsaUser.Lib.Json
import Mathlib.Data.Char

/-!
# The Training State Store

Learners enrol in courses of a catalog that is only read, hand in work, take quizzes, and use labs
and a sandbox; reviewers give verdicts on labs; organizations put learners in cohorts, which enrols
them. Whoever has done all that a course asks for gets a completion proof. The store keeps all this
in dictionaries and lists, and writes them to its persistence at the end of every change.
-/

namespace IsaUser.Training

open Dict

/-! ### What the store keeps -/

structure Enrollment where
  id : PyStr
  courseId : PyStr
  status : PyStr := "active".toList
  startedAt : PyStr
  completedAt : Option PyStr := none
  lastActivityAt : PyStr
  deriving DecidableEq

/-- The status of a `Submission`. -/
inductive SubmissionStatus where
  | evaluated
  | rejected
  deriving DecidableEq, Repr

structure Submission where
  id : PyStr
  courseId : PyStr
  lessonId : PyStr
  status : SubmissionStatus
  score : ℕ
  feedback : PyStr
  submittedAt : PyStr
  deriving DecidableEq

structure LessonActivityEvent where
  id : PyStr
  learnerId : PyStr
  courseId : PyStr
  lessonId : PyStr
  activityType : PyStr
  positionSeconds : Option ℤ
  assetKey : Option PyStr
  required : Bool
  metadata : JsonDict
  createdAt : PyStr

inductive AttemptStatus where
  | inProgress
  | evaluated
  deriving DecidableEq, Repr

structure QuizAttempt where
  id : PyStr
  userId : PyStr
  quizId : PyStr
  status : AttemptStatus := .inProgress
  submittedAt : Option PyStr := none
  answers : JsonDict := []
  score : Option ℕ := none
  total : Option ℕ := none
  /-- The score and the total of the first evaluation. The source does not keep them. -/
  first : Option (ℕ × ℕ) := none

/-- `SandboxSession`, with the user who opened it. -/
structure SandboxSession where
  id : PyStr
  userId : PyStr
  courseId : PyStr
  lessonId : Option PyStr
  evaluated : Bool := false
  createdAt : PyStr
  deriving DecidableEq

structure SandboxEvaluation where
  sessionId : PyStr
  score : ℕ
  passed : Bool
  executed : Bool
  proofEligible : Bool
  deriving DecidableEq

structure Cohort where
  id : PyStr
  organizationId : PyStr
  name : PyStr
  courseIds : List PyStr
  learnerIds : List PyStr
  createdAt : PyStr
  deriving DecidableEq

structure CompletionProof where
  id : PyStr
  learnerId : PyStr
  courseId : PyStr
  issuedAt : PyStr
  progressPercent : ℤ
  quizScorePercent : ℤ
  code : PyStr
  deriving DecidableEq

/-- `TrainingTimelineEvent`. -/
structure TimelineEvent where
  id : PyStr
  learnerId : PyStr
  eventType : PyStr
  source : PyStr
  actorId : PyStr
  createdAt : PyStr
  courseId : Option PyStr
  cohortId : Option PyStr
  metadata : JsonDict

inductive ReviewStatus where
  | pendingReview
  | approved
  | rejected
  | resubmissionRequested
  deriving DecidableEq, Repr

/-- `review_{final_status}`. -/
def ReviewStatus.eventType : ReviewStatus → PyStr
  | pendingReview => "review_pending_review".toList
  | approved => "review_approved".toList
  | rejected => "review_rejected".toList
  | resubmissionRequested => "review_resubmission_requested".toList

/-- `LabSubmissionResult`. -/
structure LabSubmission where
  submissionId : PyStr
  labId : PyStr
  learnerId : PyStr
  courseId : PyStr
  score : ℤ
  passed : Bool
  proofEligible : Bool
  reviewStatus : ReviewStatus
  deriving DecidableEq

structure ReviewRecord where
  id : PyStr
  sourceType : PyStr := "lab_submission".toList
  learnerId : PyStr
  courseId : PyStr
  labId : PyStr
  status : ReviewStatus
  score : ℤ
  passed : Bool
  createdAt : PyStr
  finalStatus : Option ReviewStatus
  overrideReason : Option PyStr := none
  overrideActorId : Option PyStr := none
  overriddenAt : Option PyStr := none
  deriving DecidableEq

abbrev Enrollments := Dict PyStr (Dict PyStr Enrollment)

def Enrollments.of (d : Enrollments) (userId : PyStr) : Dict PyStr Enrollment :=
  (d.lookup userId).getD empty

def Enrollments.put (d : Enrollments) (userId courseId : PyStr) (e : Enrollment) : Enrollments :=
  d.set userId ((d.of userId).set courseId e)

structure Tables where
  enrollments : Enrollments := empty
  completedLessons : Dict PyStr (Dict PyStr (Finset PyStr)) := empty
  submissions : Dict PyStr (List Submission) := empty
  quizAttempts : Dict PyStr QuizAttempt := empty
  sandboxSessions : Dict PyStr SandboxSession := empty
  sandboxEvaluations : Dict PyStr SandboxEvaluation := empty
  cohorts : Dict PyStr Cohort := empty
  completionProofs : Dict PyStr CompletionProof := empty
  lessonActivityEvents : List LessonActivityEvent := []
  timelineEvents : List TimelineEvent := []
  labSubmissions : Dict PyStr LabSubmission := empty
  reviewRecords : Dict PyStr ReviewRecord := empty

/-- The collections, as they are and as they were written last, and how often the clock has been
read. -/
structure Store extends Tables where
  saved : Tables := {}
  readings : ℕ := 0

def Store.flush (s : Store) : Store := { s with saved := s.toTables }

def Store.tick (s : Store) : Store := { s with readings := s.readings + 1 }

def Tables.enrollmentsOf (t : Tables) (userId : PyStr) : Dict PyStr Enrollment :=
  t.enrollments.of userId

def Tables.completedOf (t : Tables) (userId : PyStr) : Dict PyStr (Finset PyStr) :=
  (t.completedLessons.lookup userId).getD empty

def Tables.setEnrollment (t : Tables) (userId courseId : PyStr) (e : Enrollment) : Tables :=
  { t with enrollments := t.enrollments.put userId courseId e }

/-- `_completed_lessons.setdefault(user_id, {}).setdefault(course_id, set())`, with lessons that
are added. -/
def Tables.addCompleted (t : Tables) (userId courseId : PyStr) (lessons : Finset PyStr) : Tables :=
  { t with
    completedLessons := t.completedLessons.set userId ((t.completedOf userId).set courseId
      (((t.completedOf userId).lookup courseId).getD ∅ ∪ lessons)) }

/-! ### The catalog and the host -/

/-- `CourseDetail`, with the ids of the lessons of its sections. -/
structure CourseDetail where
  id : PyStr
  sections : List (List PyStr)
  deriving DecidableEq

def CourseDetail.lessonIds (detail : CourseDetail) : List PyStr := detail.sections.flatten

structure CourseEntry where
  code : PyStr
  detail : CourseDetail

structure Setting where
  /-- `str.upper`. -/
  upper : PyStr → PyStr
  upper_upper : ∀ s, upper (upper s) = upper s
  /-- The first sixteen digits of the digest of a text. -/
  digest : PyStr → PyStr
  /-- The readings of the clock, as texts. -/
  utcNow : ℕ → PyStr
  /-- The courses of the catalog. -/
  courses : List CourseEntry
  /-- `QuestionBank.score_attempt`: the score and the total, unless the quiz is not found. -/
  scoreAttempt : PyStr → JsonDict → Option (ℕ × ℕ)

/-- What `attendance_status` says. -/
inductive AttendanceStatus where
  | notRequired
  | present
  | missing
  deriving DecidableEq, Repr

/-- What `completion_eligibility` says. -/
structure Eligibility where
  missing : List String
  progressPercent : ℤ
  quizScorePercent : ℤ
  labPassed : Bool
  attendance : AttendanceStatus
  deriving DecidableEq

/-- `CourseNotFound` and `HTTPException`. -/
inductive TrainingError where
  | courseNotFound (courseId : PyStr)
  | http (statusCode : ℕ) (detail : String)
  | notEligible (detail : Eligibility)
  deriving DecidableEq

abbrev TrainingM := Except TrainingError

namespace Setting

variable (v : Setting)

def stableId (kind : PyStr) (parts : List PyStr) : PyStr :=
  kind ++ ['_'] ++ v.digest ([':'].intercalate parts)

def findCourseEntry (courseId : PyStr) : TrainingM CourseEntry :=
  orRaise (v.courses.find? fun entry => v.upper entry.code = v.upper courseId)
    (.courseNotFound (v.upper courseId))

def getCourse (courseId : PyStr) : TrainingM CourseDetail := do
  let entry ← v.findCourseEntry courseId
  pure entry.detail

end Setting

/-- `round((a / b) * 100)`. -/
def percent (a b : ℕ) : ℤ :=
  roundHalfEven (((float (a / b)).bind fun x => float (x * 100)).getD 0)

/-- `round((a / b) * 100) if b else 0`. -/
def percentOf (a b : ℕ) : ℤ := if b = 0 then 0 else percent a b

/-! ### Enrolling and lessons -/

namespace Store

variable (v : Setting)

def recordTimelineEvent (s : Store) (learnerId eventType source actorId : PyStr)
    (courseId cohortId : Option PyStr) (metadata : JsonDict) : TimelineEvent × Store :=
  let now := v.utcNow s.readings
  let event : TimelineEvent :=
    { id := v.stableId "tl".toList
        [learnerId, eventType, source, courseId.getD [], cohortId.getD [], now]
      learnerId, eventType, source, actorId
      courseId := (given courseId).map v.upper
      cohortId, metadata, createdAt := now }
  (event, { s.tick with timelineEvents := s.timelineEvents ++ [event] })

def recordLessonActivity (s : Store) (userId courseId lessonId activityType : PyStr)
    (positionSeconds : Option ℤ) (assetKey : Option PyStr) (required : Bool)
    (metadata : JsonDict) : TrainingM (LessonActivityEvent × Store) := do
  let courseId := v.upper courseId
  let detail ← v.getCourse courseId
  let enrollment ← orRaise ((s.enrollmentsOf userId).lookup courseId)
    (.http 403 "Enroll in this course before recording lesson activity.")
  let _ ← check (lessonId ∈ detail.lessonIds) (.http 404 ("Lesson not found: " ++ lessonId.text))
  let now := v.utcNow s.readings
  let event : LessonActivityEvent :=
    { id := v.stableId "act".toList [userId, courseId, lessonId, activityType, now]
      learnerId := userId, courseId, lessonId, activityType, positionSeconds, assetKey, required
      metadata, createdAt := now }
  let t := { s.toTables with lessonActivityEvents := s.lessonActivityEvents ++ [event] }
  let t := t.setEnrollment userId courseId { enrollment with lastActivityAt := now }
  pure (event, flush { s.tick with toTables := t })

def newEnrollment (userId courseId now : PyStr) : Enrollment where
  id := v.stableId "enr".toList [userId, courseId]
  courseId
  startedAt := now
  lastActivityAt := now

def enroll (s : Store) (userId courseId : PyStr) : TrainingM (Enrollment × Store) := do
  let _ ← v.getCourse courseId
  let courseId := v.upper courseId
  match (s.enrollmentsOf userId).lookup courseId with
  | some existing => pure (existing, s)
  | none =>
    let enrollment := newEnrollment v userId courseId (v.utcNow s.readings)
    let t := s.setEnrollment userId courseId enrollment
    pure (enrollment, flush { s.tick with toTables := t.addCompleted userId courseId ∅ })

def submitWork (s : Store) (userId courseId lessonId content : PyStr) :
    TrainingM (Submission × Store) := do
  let courseId := v.upper courseId
  let detail ← v.getCourse courseId
  let enrollment ← orRaise ((s.enrollmentsOf userId).lookup courseId)
    (.http 403 "Enroll in this course before submitting work.")
  let _ ← check (lessonId ∈ detail.lessonIds) (.http 404 ("Lesson not found: " ++ lessonId.text))
  let now := v.utcNow s.readings
  let submission : Submission :=
    { id := v.stableId "sub".toList [userId, courseId, lessonId, now]
      courseId, lessonId
      status := if content.strip ≠ [] then .evaluated else .rejected
      score := if content.strip ≠ [] then min 100 (max 50 (content.strip.length / 4)) else 0
      feedback :=
        if content.strip ≠ [] then "Submission recorded and lesson progress updated.".toList
        else "Submission content is empty.".toList
      submittedAt := now }
  let t :=
    { s.toTables with
      submissions := s.submissions.set userId
        ((s.submissions.lookup userId).getD [] ++ [submission]) }
  if submission.status = .evaluated then
    let t := t.addCompleted userId courseId {lessonId}
    let t := t.setEnrollment userId courseId { enrollment with lastActivityAt := now }
    let (_, s) ← recordLessonActivity v { s.tick with toTables := t } userId courseId lessonId
      "lesson_completed".toList none none true [("submissionId", .str submission.id)]
    pure (submission, s)
  else pure (submission, flush { s.tick with toTables := t })

end Store

/-! ### Quizzes -/

def QuizAttempt.submitted (a : QuizAttempt) (now : PyStr) (answers : JsonDict) :
    Option (ℕ × ℕ) → QuizAttempt
  | none => { a with status := .evaluated, submittedAt := some now, answers }
  | some (score, total) =>
    { a with
      status := .evaluated
      submittedAt := some now
      answers
      score := some score
      total := some total
      first := a.first <|> some (score, total) }

namespace Store

variable (v : Setting)

def newAttempt (s : Store) (userId quizId : PyStr) : QuizAttempt where
  id := v.stableId "qat".toList [userId, quizId, v.utcNow s.readings]
  userId
  quizId

def createQuizAttempt (s : Store) (userId quizId : PyStr) : QuizAttempt × Store :=
  let attempt := s.newAttempt v userId quizId
  (attempt, flush { s.tick with quizAttempts := s.quizAttempts.set attempt.id attempt })

def getOwnedQuizAttempt (s : Store) (userId attemptId : PyStr) : TrainingM QuizAttempt := do
  let attempt ← orRaise (s.quizAttempts.lookup attemptId)
    (.http 404 ("Quiz attempt not found: " ++ attemptId.text))
  let _ ← check (attempt.userId = userId) (.http 403 "Quiz attempt belongs to another user.")
  pure attempt

/-- `update_quiz_attempt`, and `record_quiz_result` with what the answers score, if the quiz is
found. -/
def submitQuizAttempt (s : Store) (userId attemptId : PyStr) (answers : JsonDict) :
    TrainingM (Option (ℕ × ℕ) × Store) := do
  let attempt ← s.getOwnedQuizAttempt userId attemptId
  let result := v.scoreAttempt attempt.quizId answers
  let attempt := attempt.submitted (v.utcNow s.readings) answers result
  pure (result, flush { s.tick with quizAttempts := s.quizAttempts.set attemptId attempt })

end Store

/-- What `quiz_state` says of an attempt. -/
structure QuizState where
  attemptId : PyStr
  status : AttemptStatus
  submittedAt : Option PyStr
  score : Option ℕ
  total : Option ℕ
  deriving DecidableEq

/-- What `quiz_state` says of an attempt. -/
def QuizAttempt.state (a : QuizAttempt) : QuizState where
  attemptId := a.id
  status := a.status
  submittedAt := a.submittedAt
  score := a.score
  total := a.total

def QuizAttempt.percent (a : QuizAttempt) : Option ℤ :=
  match a.score, a.total with
  | some score, some total => if 0 < total then some (Training.percent score total) else none
  | _, _ => none

namespace Tables

def attemptsOf (t : Tables) (userId : PyStr) : List QuizAttempt :=
  t.quizAttempts.values.filter fun a => a.userId = userId

def quizState (t : Tables) (userId : PyStr) : Dict PyStr QuizState :=
  ofList ((t.attemptsOf userId).map fun a => (a.quizId, a.state))

def bestQuizScorePercent (t : Tables) (userId : PyStr) : Option ℤ :=
  ((t.attemptsOf userId).filterMap QuizAttempt.percent).foldl
    (fun best percent => some (best.elim percent (max · percent))) none

end Tables

/-! ### Labs, their reviews, and the sandbox -/

structure LabAdapterResult where
  executed : Bool
  passed : Bool
  score : ℕ
  proofEligible : Bool
  deriving DecidableEq

def LabAdapterResult.submission (result : LabAdapterResult)
    (submissionId labId learnerId courseId : PyStr) : LabSubmission where
  submissionId
  labId
  learnerId
  courseId
  score := result.score
  passed := result.passed
  proofEligible := result.proofEligible
  reviewStatus := if result.passed then .approved else .pendingReview

def LabAdapterResult.reviewRecord (result : LabAdapterResult)
    (submissionId labId learnerId courseId now : PyStr) : ReviewRecord where
  id := submissionId
  learnerId
  courseId
  labId
  status := if result.passed then .approved else .pendingReview
  score := result.score
  passed := result.passed
  createdAt := now
  finalStatus := if result.passed then some .approved else none

inductive SandboxOutcome where
  /-- It is run as a lab task. -/
  | adapter (result : LabAdapterResult)
  /-- It is run. -/
  | run (executed passed : Bool)
  /-- It is not run. -/
  | static
  deriving DecidableEq

def staticArtifactScore (artifact : PyStr) (rubric : List PyStr) : ℕ :=
  let normalized := artifact.strip
  if normalized = [] then 0
  else
    let returns := if "return".toList <:+: normalized then 20 else 0
    let isolated :=
      if ¬"import requests".toList <:+: normalized ∧ ¬"http://".toList <:+: normalized then 15
      else 0
    let criteria := if rubric ≠ [] then min 15 (rubric.length * 5) else 0
    min (50 + returns + isolated + criteria) 100

def SandboxOutcome.evaluation (outcome : SandboxOutcome) (sessionId : PyStr) (score : ℕ) :
    SandboxEvaluation :=
  match outcome with
  | .adapter result =>
    { sessionId
      score := result.score
      passed := result.passed
      executed := result.executed
      proofEligible := result.proofEligible }
  | .run executed passed =>
    let score :=
      if executed = true ∧ passed = true then min 100 (max score 70)
      else if executed = true then min score 55
      else min score 40
    { sessionId, score, executed, passed := 60 ≤ score, proofEligible := 60 ≤ score }
  | .static =>
    { sessionId, score, executed := false, passed := 60 ≤ score, proofEligible := 60 ≤ score }

namespace Store

variable (v : Setting)

/-- `lab_definition`: there is one lab. -/
def labCourseId (labId : PyStr) : TrainingM PyStr := do
  let _ ← check (labId = "F1-agent-hello".toList) (.http 404 ("Lab not found: " ++ labId.text))
  pure "F1".toList

def labSubmissionId (s : Store) (labId learnerId : PyStr) : PyStr :=
  v.stableId "lab".toList [learnerId, labId, v.utcNow s.readings]

def submitLab (s : Store) (labId learnerId : PyStr) (metadata : JsonDict)
    (result : LabAdapterResult) : TrainingM (LabSubmission × Store) := do
  let courseId ← labCourseId labId
  let _ ← check (((s.enrollmentsOf learnerId).lookup courseId).isSome = true)
    (.http 403 "Enroll in this course before submitting a lab.")
  let submissionId := s.labSubmissionId v labId learnerId
  let submission := result.submission submissionId labId learnerId courseId
  let record := result.reviewRecord submissionId labId learnerId courseId (v.utcNow s.readings)
  let s :=
    { s.tick with
      labSubmissions := s.labSubmissions.set submissionId submission
      reviewRecords := s.reviewRecords.set submissionId record }
  let (_, s) := s.recordTimelineEvent v learnerId "lab_submitted".toList "lab".toList learnerId
    (some courseId) none
    ([("labId", .str labId), ("submissionId", .str submissionId)] ++ metadata)
  pure (submission, s.flush)

def createSandboxSession (s : Store) (userId courseId : PyStr) (lessonId : Option PyStr) :
    TrainingM (SandboxSession × Store) := do
  let courseId := v.upper courseId
  let _ ← v.getCourse courseId
  let now := v.utcNow s.readings
  let session : SandboxSession :=
    { id := v.stableId "sbx".toList [userId, courseId, lessonId.getD [], now]
      userId, courseId, lessonId, createdAt := now }
  pure (session, flush { s.tick with sandboxSessions := s.sandboxSessions.set session.id session })

def evaluateSandbox (s : Store) (userId sessionId artifact : PyStr) (rubric : List PyStr)
    (outcome : SandboxOutcome) : TrainingM (SandboxEvaluation × Store) := do
  let session ← orRaise (s.sandboxSessions.lookup sessionId)
    (.http 404 ("Sandbox session not found: " ++ sessionId.text))
  let _ ← check (session.userId = userId) (.http 403 "Sandbox session belongs to another user.")
  let evaluation := outcome.evaluation sessionId (staticArtifactScore artifact rubric)
  pure (evaluation, flush
    { s with
      sandboxSessions := s.sandboxSessions.set sessionId { session with evaluated := true }
      sandboxEvaluations := s.sandboxEvaluations.set sessionId evaluation })

end Store

structure Verdict where
  finalStatus : ReviewStatus
  score : Option ℤ
  passed : Option Bool
  reason : PyStr
  actorId : PyStr
  deriving DecidableEq

def ReviewRecord.override (record : ReviewRecord) (verdict : Verdict) (now : PyStr) :
    ReviewRecord :=
  { record with
    score := verdict.score.getD record.score
    passed := verdict.passed.getD record.passed
    finalStatus := some verdict.finalStatus
    overrideReason := some verdict.reason
    overrideActorId := some verdict.actorId
    overriddenAt := some now }

def LabSubmission.override (submission : LabSubmission) (record : ReviewRecord)
    (verdict : Verdict) : LabSubmission :=
  { submission with
    score := record.score
    passed := record.passed
    proofEligible := record.passed
    reviewStatus := verdict.finalStatus }

namespace Store

variable (v : Setting)

def overrideReviewItem (s : Store) (itemId : PyStr) (verdict : Verdict) :
    TrainingM (ReviewRecord × Store) := do
  let record ← orRaise (s.reviewRecords.lookup itemId)
    (.http 404 ("Review item not found: " ++ itemId.text))
  let record := record.override verdict (v.utcNow s.readings)
  let labSubmissions :=
    match s.labSubmissions.lookup itemId with
    | some submission => s.labSubmissions.set itemId (submission.override record verdict)
    | none => s.labSubmissions
  let s :=
    { s.tick with labSubmissions, reviewRecords := s.reviewRecords.set itemId record }
  let (_, s) := s.recordTimelineEvent v record.learnerId verdict.finalStatus.eventType
    "review".toList verdict.actorId (some record.courseId) none
    [("reviewItemId", .str itemId), ("reason", .str verdict.reason)]
  pure (record, s.flush)

end Store

namespace Tables

def reviewQueue (t : Tables) : List ReviewRecord :=
  t.reviewRecords.values.filter fun r => r.status = .pendingReview ∨ r.finalStatus ≠ none

def labSubmissionPassed (t : Tables) (userId courseId : PyStr) : Bool :=
  t.labSubmissions.values.any fun submission =>
    submission.learnerId = userId ∧ submission.courseId = courseId ∧
      (submission.passed = true ∨
        ((t.reviewRecords.lookup submission.submissionId).map ReviewRecord.passed) = some true)

def sandboxPassed (t : Tables) (userId courseId : PyStr) : Bool :=
  t.sandboxEvaluations.values.any fun evaluation =>
    (t.sandboxSessions.lookup evaluation.sessionId).any (fun session =>
      session.courseId = courseId ∧ session.userId = userId) ∧ evaluation.passed

def lessonTextPassed (t : Tables) (userId courseId : PyStr) : Bool :=
  ((t.submissions.lookup userId).getD []).any fun submission =>
    submission.courseId = courseId ∧ submission.status = .evaluated ∧ 50 ≤ submission.score

/-- `lab_status`, which is "passed" or "missing". -/
def labStatus (t : Tables) (userId courseId : PyStr) : Bool :=
  t.labSubmissionPassed userId courseId || t.sandboxPassed userId courseId ||
    t.lessonTextPassed userId courseId

end Tables

/-! ### Progress -/

structure LessonProgress where
  completedLessons : List PyStr
  totalLessons : ℕ
  percentComplete : ℤ
  resumeLessonId : Option PyStr
  lastActivityAt : Option PyStr
  activityEvents : List LessonActivityEvent

structure ActiveCourseProgress where
  courseId : PyStr
  enrollmentId : PyStr
  status : PyStr
  completedLessonCount : ℕ
  totalLessonCount : ℕ
  nextLessonId : Option PyStr
  deriving DecidableEq

structure TrainingProgress where
  enrollments : List Enrollment
  activeCourses : List ActiveCourseProgress
  lessonProgress : Dict PyStr LessonProgress
  quizState : Dict PyStr QuizState
  completionPercent : ℤ

namespace Tables

variable (v : Setting) (t : Tables)

def lessonEvents (userId courseId : PyStr) : List LessonActivityEvent :=
  t.lessonActivityEvents.filter fun e => e.learnerId = userId ∧ e.courseId = courseId

def completedIn (userId courseId : PyStr) (lessonIds : List PyStr) : List PyStr :=
  orderBy id (lessonIds.dedup.filter (· ∈ ((t.completedOf userId).lookup courseId).getD ∅))

/-- What `progress` says of one enrollment. -/
def courseProgress (userId : PyStr) (enrollment : Enrollment) :
    TrainingM (ActiveCourseProgress × LessonProgress) := do
  let courseId := enrollment.courseId
  let detail ← v.getCourse courseId
  let completed := t.completedIn userId courseId detail.lessonIds
  let last := (t.lessonEvents userId courseId).getLast?
  pure (
    { courseId
      enrollmentId := enrollment.id
      status := enrollment.status
      completedLessonCount := completed.length
      totalLessonCount := detail.lessonIds.length
      nextLessonId := detail.lessonIds.find? (· ∉ completed) },
    { completedLessons := completed
      totalLessons := detail.lessonIds.length
      percentComplete := percentOf completed.length detail.lessonIds.length
      resumeLessonId := last.map LessonActivityEvent.lessonId
      lastActivityAt := last.map LessonActivityEvent.createdAt
      activityEvents := t.lessonEvents userId courseId })

def progress (userId : PyStr) : TrainingM TrainingProgress := do
  let enrollments := (t.enrollmentsOf userId).values
  let courses ← enrollments.mapM (t.courseProgress v userId)
  pure
    { enrollments
      activeCourses := courses.map Prod.fst
      lessonProgress := ofList (courses.map fun c => (c.1.courseId, c.2))
      quizState := t.quizState userId
      completionPercent :=
        percentOf (courses.map fun c => c.1.completedLessonCount).sum
          (courses.map fun c => c.1.totalLessonCount).sum }

/-! ### Timeline, attendance, eligibility and proofs -/

def requiresAttendance (userId courseId : PyStr) : Bool :=
  t.cohorts.values.any fun c => userId ∈ c.learnerIds ∧ courseId ∈ c.courseIds

end Tables

def TimelineEvent.attendance (e : TimelineEvent) : Option AttendanceStatus :=
  if e.eventType = "attendance_present".toList then some .present
  else if e.eventType = "attendance_absent".toList ∨ e.eventType = "attendance_excused".toList then
    some .missing
  else none

namespace Tables

variable (v : Setting) (t : Tables)

def timelineForLearner (learnerId : PyStr) : List TimelineEvent :=
  orderBy TimelineEvent.createdAt (t.timelineEvents.filter fun e => e.learnerId = learnerId)

def attendanceStatus (userId courseId : PyStr) : AttendanceStatus :=
  let courseId := v.upper courseId
  if t.requiresAttendance userId courseId = true then
    (t.timelineEvents.reverse.findSome? fun e =>
      if e.learnerId = userId ∧ e.courseId = some courseId then e.attendance else none).getD
        .missing
  else .notRequired

def completionEligibility (userId courseId : PyStr) : TrainingM Eligibility := do
  let courseId := v.upper courseId
  let progress ← t.progress v userId
  let progressPercent :=
    ((progress.lessonProgress.lookup courseId).map LessonProgress.percentComplete).getD 0
  let quizScore := t.bestQuizScorePercent userId
  let attendance := t.attendanceStatus v userId courseId
  pure
    { missing :=
        (if attendance = .missing then ["Required offline attendance must be present."] else []) ++
        (if progressPercent < 100 then ["Course progress must be 100%."] else []) ++
        (if quizScore.all (· < 60) then ["Required quiz score must be at least 60%."] else []) ++
        (if t.labStatus userId courseId then [] else ["Required lab outcome must be passed."])
      progressPercent
      quizScorePercent := quizScore.getD 0
      labPassed := t.labStatus userId courseId
      attendance }

end Tables

namespace Store

variable (v : Setting)

def newProof (s : Store) (userId courseId : PyStr) (eligibility : Eligibility) :
    CompletionProof where
  id := v.stableId "proof".toList [userId, courseId]
  learnerId := userId
  courseId
  issuedAt := v.utcNow s.readings
  progressPercent := eligibility.progressPercent
  quizScorePercent := eligibility.quizScorePercent
  code := "isa-proof-".toList ++ (v.stableId "v".toList [userId, courseId]).drop 2

def completionProof (s : Store) (userId courseId : PyStr) : TrainingM (CompletionProof × Store) :=
  do
  let courseId := v.upper courseId
  let _ ← v.getCourse courseId
  let eligibility ← s.completionEligibility v userId courseId
  let _ ← check (eligibility.missing = []) (.notEligible eligibility)
  match s.completionProofs.lookup (s.newProof v userId courseId eligibility).id with
  | some existing => pure (existing, s)
  | none =>
    let proof := s.newProof v userId courseId eligibility
    pure (proof, flush { s.tick with completionProofs := s.completionProofs.set proof.id proof })

/-! ### Cohorts -/

/-- The body of the loop of `_assign_learner_to_courses`. -/
def assignLearnerToCourse (learnerId actorId cohortId : PyStr) (s : Store) (courseId : PyStr) :
    Store :=
  let courseId := v.upper courseId
  let s :=
    match (s.enrollmentsOf learnerId).lookup courseId with
    | some _ => s
    | none =>
      let enrollment := newEnrollment v learnerId courseId (v.utcNow s.readings)
      let t := s.setEnrollment learnerId courseId enrollment
      { s.tick with toTables := t.addCompleted learnerId courseId ∅ }
  (s.recordTimelineEvent v learnerId "cohort_assigned".toList "cohort".toList actorId
    (some courseId) (some cohortId) []).2

def withLearner (s : Store) (learnerId : PyStr) : Store :=
  { s with
    enrollments := s.enrollments.set learnerId (s.enrollmentsOf learnerId)
    completedLessons := s.completedLessons.set learnerId (s.completedOf learnerId) }

def assignLearnerToCourses (courseIds : List PyStr) (actorId cohortId : PyStr) (s : Store)
    (learnerId : PyStr) : Store :=
  courseIds.foldl (assignLearnerToCourse v learnerId actorId cohortId) (s.withLearner learnerId)

def withCohort (s : Store) (cohortId : PyStr) (cohort : Cohort) : Store :=
  { s with cohorts := s.cohorts.set cohortId cohort }

def createCohort (s : Store) (organizationId name : PyStr) (courseIds learnerIds : List PyStr) :
    Cohort × Store :=
  let now := v.utcNow s.readings
  let cohort : Cohort :=
    { id := v.stableId "cohort".toList [organizationId, name, now]
      organizationId, name
      courseIds := courseIds.map v.upper
      learnerIds := learnerIds.eraseDups
      createdAt := now }
  let s :=
    cohort.learnerIds.foldl (assignLearnerToCourses v cohort.courseIds "system".toList cohort.id)
      (s.tick.withCohort cohort.id cohort)
  (cohort, s.flush)

def getCohort (s : Store) (cohortId : PyStr) : TrainingM Cohort :=
  orRaise (s.cohorts.lookup cohortId) (.http 404 ("Cohort not found: " ++ cohortId.text))

def assignLearnersToCohort (s : Store) (cohortId : PyStr) (learnerIds : List PyStr)
    (actorId : PyStr) : TrainingM (Cohort × Store) := do
  let cohort ← s.getCohort cohortId
  let updated := { cohort with learnerIds := (cohort.learnerIds ++ learnerIds).eraseDups }
  let s :=
    learnerIds.foldl (assignLearnerToCourses v updated.courseIds actorId cohortId)
      (s.withCohort cohortId updated)
  pure (updated, s.flush)

def recordAttendance (s : Store) (cohortId learnerId courseId attendanceStatus actorId : PyStr)
    (metadata : JsonDict) : TrainingM (TimelineEvent × Store) := do
  let cohort ← s.getCohort cohortId
  let courseId := v.upper courseId
  let _ ← check (learnerId ∈ cohort.learnerIds)
    (.http 404 ("Learner not in cohort: " ++ learnerId.text))
  let _ ← check (courseId ∈ cohort.courseIds)
    (.http 404 ("Course not in cohort: " ++ courseId.text))
  let (event, s) := s.recordTimelineEvent v learnerId ("attendance_".toList ++ attendanceStatus)
    "attendance".toList actorId (some courseId) (some cohortId) metadata
  pure (event, s.flush)

end Store

/-! ### Dashboards -/

structure LearnerCourseSummary where
  learnerId : PyStr
  courseId : PyStr
  progressPercent : ℤ
  quizScorePercent : Option ℤ
  labPassed : Bool
  deriving DecidableEq

structure CohortDashboard where
  cohortId : PyStr
  name : PyStr
  completionPercent : ℤ
  learners : List LearnerCourseSummary
  deriving DecidableEq

structure OrganizationDashboard where
  organizationId : PyStr
  cohorts : List CohortDashboard
  deriving DecidableEq

namespace Tables

variable (v : Setting) (t : Tables)

def learnerSummary (userId courseId : PyStr) : TrainingM LearnerCourseSummary := do
  let progress ← t.progress v userId
  pure
    { learnerId := userId
      courseId
      progressPercent :=
        ((progress.lessonProgress.lookup courseId).map LessonProgress.percentComplete).getD 0
      quizScorePercent := t.bestQuizScorePercent userId
      labPassed := t.labStatus userId courseId }

def cohortLearners (cohort : Cohort) : TrainingM (List LearnerCourseSummary) :=
  (cohort.learnerIds.flatMap fun learnerId =>
    cohort.courseIds.map fun courseId => (learnerId, courseId)).mapM
      fun p => t.learnerSummary v p.1 p.2

def cohortDashboard (cohort : Cohort) : TrainingM CohortDashboard := do
  let learners ← t.cohortLearners v cohort
  pure
    { cohortId := cohort.id
      name := cohort.name
      completionPercent :=
        if learners = [] then 0
        else
          roundHalfEven
            ((float ((learners.map LearnerCourseSummary.progressPercent).sum /
              learners.length)).getD 0)
      learners }

def organizationDashboard (organizationId : PyStr) : TrainingM OrganizationDashboard := do
  let cohorts ←
    (t.cohorts.values.filter fun c => c.organizationId = organizationId).mapM (t.cohortDashboard v)
  pure { organizationId, cohorts }

end Tables

/-! ### Requests -/

/-- The requests that change the store, with what the host and the learner's code answer. -/
inductive Request where
  | enroll (userId courseId : PyStr)
  | recordLessonActivity (userId courseId lessonId activityType : PyStr)
      (positionSeconds : Option ℤ) (assetKey : Option PyStr) (required : Bool)
      (metadata : JsonDict)
  | submitWork (userId courseId lessonId content : PyStr)
  | createQuizAttempt (userId quizId : PyStr)
  | submitQuizAttempt (userId attemptId : PyStr) (answers : JsonDict)
  | submitLab (labId learnerId : PyStr) (metadata : JsonDict) (result : LabAdapterResult)
  | overrideReviewItem (itemId : PyStr) (verdict : Verdict)
  | createSandboxSession (userId courseId : PyStr) (lessonId : Option PyStr)
  | evaluateSandbox (userId sessionId artifact : PyStr) (rubric : List PyStr)
      (outcome : SandboxOutcome)
  | completionProof (userId courseId : PyStr)
  | createCohort (organizationId name : PyStr) (courseIds learnerIds : List PyStr)
  | assignLearnersToCohort (cohortId : PyStr) (learnerIds : List PyStr) (actorId : PyStr)
  | recordAttendance (cohortId learnerId courseId attendanceStatus actorId : PyStr)
      (metadata : JsonDict)

open Store in
def serve (v : Setting) (s : Store) : Request → TrainingM Store
  | .enroll userId courseId => Prod.snd <$> s.enroll v userId courseId
  | .recordLessonActivity userId courseId lessonId activityType positionSeconds assetKey required
      metadata =>
      Prod.snd <$> s.recordLessonActivity v userId courseId lessonId activityType positionSeconds
        assetKey required metadata
  | .submitWork userId courseId lessonId content =>
    Prod.snd <$> s.submitWork v userId courseId lessonId content
  | .createQuizAttempt userId quizId => pure (s.createQuizAttempt v userId quizId).2
  | .submitQuizAttempt userId attemptId answers =>
    Prod.snd <$> s.submitQuizAttempt v userId attemptId answers
  | .submitLab labId learnerId metadata result =>
    Prod.snd <$> s.submitLab v labId learnerId metadata result
  | .overrideReviewItem itemId verdict => Prod.snd <$> s.overrideReviewItem v itemId verdict
  | .createSandboxSession userId courseId lessonId =>
    Prod.snd <$> s.createSandboxSession v userId courseId lessonId
  | .evaluateSandbox userId sessionId artifact rubric outcome =>
    Prod.snd <$> s.evaluateSandbox userId sessionId artifact rubric outcome
  | .completionProof userId courseId => Prod.snd <$> s.completionProof v userId courseId
  | .createCohort organizationId name courseIds learnerIds =>
    pure (s.createCohort v organizationId name courseIds learnerIds).2
  | .assignLearnersToCohort cohortId learnerIds actorId =>
    Prod.snd <$> s.assignLearnersToCohort v cohortId learnerIds actorId
  | .recordAttendance cohortId learnerId courseId attendanceStatus actorId metadata =>
    Prod.snd <$> s.recordAttendance v cohortId learnerId courseId attendanceStatus actorId
      metadata

def step (v : Setting) (s : Store) (r : Request) : Store :=
  match serve v s r with
  | .ok s' => s'
  | .error _ => s

theorem step_of_ok {v : Setting} {s s' : Store} {r : Request} (h : serve v s r = .ok s') :
    step v s r = s' := by
  rw [step, h]

theorem step_induction {v : Setting} {s : Store} {r : Request} {P : Store → Prop} (hs : P s)
    (h : ∀ s', serve v s r = .ok s' → P s') : P (step v s r) := by
  rw [step]
  split
  · next s' hserve => exact h s' hserve
  · exact hs

end IsaUser.Training
