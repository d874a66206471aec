import IsaUser.Training.Views

/-!
# Answers After a Restart

Every change is written to the persistence, which keeps the entries of a dictionary but not their
order: they come back in an order of their keys. Some answers show the order of a dictionary. The
enrollments of a learner and the review queue are listed in it, and of several attempts at a quiz
the last one in it is shown. So a restart changes these answers, unless entries are added in the
order of their keys.
-/

open List

namespace IsaUser.Training

open Store Dict Tables

variable {v : Setting} {t : Tables} {s s' : Store} {r : Request} {userId courseId : PyStr}
variable {R : Type*} [LinearOrder R] {rank : PyStr → R}

/-! ### What comes back -/

/-- The collections, written out and read back by a persistence that orders keys by their ranks. -/
def Tables.reload (rank : PyStr → R) (t : Tables) : Tables where
  enrollments := (t.enrollments.mapValues fun d => d.orderBy rank).orderBy rank
  completedLessons := (t.completedLessons.mapValues fun d => d.orderBy rank).orderBy rank
  submissions := t.submissions.orderBy rank
  quizAttempts := t.quizAttempts.orderBy rank
  sandboxSessions := t.sandboxSessions.orderBy rank
  sandboxEvaluations := t.sandboxEvaluations.orderBy rank
  cohorts := t.cohorts.orderBy rank
  completionProofs := t.completionProofs.orderBy rank
  lessonActivityEvents := t.lessonActivityEvents
  timelineEvents := t.timelineEvents
  labSubmissions := t.labSubmissions.orderBy rank
  reviewRecords := t.reviewRecords.orderBy rank

/-- The same progress. Its dictionaries are compared without their order. -/
structure TrainingProgress.Same (p p' : TrainingProgress) : Prop where
  enrollments : p'.enrollments = p.enrollments
  activeCourses : p'.activeCourses = p.activeCourses
  lessonProgress : ∀ courseId, p'.lessonProgress.lookup courseId = p.lessonProgress.lookup courseId
  quizState : ∀ quizId, p'.quizState.lookup quizId = p.quizState.lookup quizId
  completionPercent : p'.completionPercent = p.completionPercent

def SameProgress : TrainingM TrainingProgress → TrainingM TrainingProgress → Prop
  | .ok p, .ok p' => p.Same p'
  | .error e, .error e' => e' = e
  | _, _ => False

structure SameAnswers (v : Setting) (t t' : Tables) : Prop where
  progress : ∀ userId, SameProgress (t.progress v userId) (t'.progress v userId)
  eligibility : ∀ userId courseId,
    t'.completionEligibility v userId courseId = t.completionEligibility v userId courseId
  labStatus : ∀ userId courseId, t'.labStatus userId courseId = t.labStatus userId courseId
  attendance : ∀ userId courseId,
    t'.attendanceStatus v userId courseId = t.attendanceStatus v userId courseId
  bestQuizScore : ∀ userId, t'.bestQuizScorePercent userId = t.bestQuizScorePercent userId
  reviewQueue : t'.reviewQueue = t.reviewQueue
  timeline : ∀ userId, t'.timelineForLearner userId = t.timelineForLearner userId

/-! ### Answers that show an order -/

def Ordered (rank : PyStr → R) (ks : List PyStr) : Prop := ks.Pairwise fun k k' => rank k ≤ rank k'

def attemptIds (d : Dict PyStr QuizAttempt) (userId quizId : PyStr) : List PyStr :=
  (d.rows.filter fun e => e.2.userId = userId ∧ e.2.quizId = quizId).map Prod.fst

structure KeyOrdered (rank : PyStr → R) (t : Tables) : Prop where
  enrollments : ∀ userId, Ordered rank (t.enrollments.courses userId)
  attempts : ∀ userId quizId, Ordered rank (attemptIds t.quizAttempts userId quizId)
  reviews : Ordered rank t.reviewRecords.keys

theorem enrollmentsOf_reload (h : KeyOrdered rank t) :
    (t.reload rank).enrollmentsOf userId = t.enrollmentsOf userId := by
  have hkeys := h.enrollments userId
  rw [Enrollments.courses, Enrollments.of] at hkeys
  rw [enrollmentsOf, reload, Enrollments.of, lookup_orderBy,
    lookup_mapValues, enrollmentsOf, Enrollments.of]
  cases hfound : t.enrollments.lookup userId with
  | none => rfl
  | some d =>
    rw [hfound] at hkeys
    exact orderBy_eq_self hkeys

theorem lookup_completedOf_reload :
    ((t.reload rank).completedOf userId).lookup courseId =
      (t.completedOf userId).lookup courseId := by
  rw [completedOf, reload, lookup_orderBy, lookup_mapValues,
    completedOf]
  cases t.completedLessons.lookup userId with
  | none => rfl
  | some d => exact lookup_orderBy

theorem attemptsOf_reload_perm :
    ((t.reload rank).attemptsOf userId).Perm (t.attemptsOf userId) :=
  values_orderBy_perm.filter _

theorem bestQuizScorePercent_reload :
    (t.reload rank).bestQuizScorePercent userId = t.bestQuizScorePercent userId := by
  refine (attemptsOf_reload_perm.filterMap _).foldl_eq' (fun x _ y _ best => ?_) none
  cases best with
  | none => exact congrArg some (max_comm x y)
  | some b => exact congrArg some (max_right_comm b x y)

theorem lookup_quizState (t : Tables) (userId quizId : PyStr) :
    (t.quizState userId).lookup quizId =
      ((t.quizAttempts.rows.filter fun e =>
        e.2.userId = userId ∧ e.2.quizId = quizId).getLast?).map fun e => e.2.state := by
  rw [quizState, lookup_ofList, attemptsOf, values, filter_map,
    filter_map, filter_map, filter_filter, getLast?_map, getLast?_map,
    Option.map_map, Option.map_map]
  congr 3
  simp [Bool.and_comm]

theorem lookup_quizState_reload (h : KeyOrdered rank t) (quizId : PyStr) :
    ((t.reload rank).quizState userId).lookup quizId = (t.quizState userId).lookup quizId := by
  rw [lookup_quizState, lookup_quizState]
  have hsorted := pairwise_map.mp (h.attempts userId quizId)
  have hsame : ((t.reload rank).quizAttempts.rows.filter fun e =>
      e.2.userId = userId ∧ e.2.quizId = quizId) =
        t.quizAttempts.rows.filter fun e => e.2.userId = userId ∧ e.2.quizId = quizId :=
    filter_orderBy_of_pairwise _ hsorted
  rw [hsame]

theorem completedIn_reload (lessonIds : List PyStr) :
    (t.reload rank).completedIn userId courseId lessonIds =
      t.completedIn userId courseId lessonIds := by
  rw [completedIn, lookup_completedOf_reload, completedIn]

theorem courseProgress_reload :
    (t.reload rank).courseProgress v userId = t.courseProgress v userId := by
  funext enrollment
  rw [courseProgress]
  simp only [completedIn_reload]
  rfl

theorem progress_reload (h : KeyOrdered rank t) :
    (t.reload rank).progress v userId =
      (fun p => { p with quizState := (t.reload rank).quizState userId }) <$>
        t.progress v userId := by
  rw [progress, progress, enrollmentsOf_reload h, courseProgress_reload]
  cases (t.enrollmentsOf userId).values.mapM (t.courseProgress v userId) with
  | error e => rfl
  | ok courses => rfl

theorem labStatus_reload :
    (t.reload rank).labStatus userId courseId = t.labStatus userId courseId := by
  have hsubmission : (t.reload rank).labSubmissionPassed userId courseId =
      t.labSubmissionPassed userId courseId := by
    rw [labSubmissionPassed]
    simp only [reload, lookup_orderBy]
    exact values_orderBy_perm.any_eq
  have hsandbox : (t.reload rank).sandboxPassed userId courseId =
      t.sandboxPassed userId courseId := by
    rw [sandboxPassed]
    simp only [reload, lookup_orderBy]
    exact values_orderBy_perm.any_eq
  have htext : (t.reload rank).lessonTextPassed userId courseId =
      t.lessonTextPassed userId courseId := by
    rw [lessonTextPassed, lessonTextPassed]
    simp only [reload, lookup_orderBy]
  rw [labStatus, hsubmission, hsandbox, htext, labStatus]

theorem attendanceStatus_reload :
    (t.reload rank).attendanceStatus v userId courseId = t.attendanceStatus v userId courseId := by
  have hrequires : (t.reload rank).requiresAttendance userId (v.upper courseId) =
      t.requiresAttendance userId (v.upper courseId) :=
    values_orderBy_perm.any_eq
  rw [attendanceStatus, hrequires]
  rfl

theorem completionEligibility_reload (h : KeyOrdered rank t) :
    (t.reload rank).completionEligibility v userId courseId =
      t.completionEligibility v userId courseId := by
  rw [completionEligibility, completionEligibility, progress_reload h]
  simp only [bestQuizScorePercent_reload, attendanceStatus_reload, labStatus_reload]
  cases t.progress v userId with
  | error e => rfl
  | ok p => rfl

/-- **What was in the order of its keys gives the same answers after a restart.** -/
theorem sameAnswers_reload (h : KeyOrdered rank t) : SameAnswers v t (t.reload rank) where
  progress userId := by
    rw [progress_reload h]
    cases hp : t.progress v userId with
    | error e => exact rfl
    | ok p =>
      refine ⟨rfl, rfl, fun _ => rfl, fun quizId => ?_, rfl⟩
      simp only [progress, bind_eq_ok_iff, pure_eq_ok_iff] at hp
      obtain ⟨courses, -, rfl⟩ := hp
      exact lookup_quizState_reload h quizId
  eligibility _ _ := completionEligibility_reload h
  labStatus _ _ := labStatus_reload
  attendance _ _ := attendanceStatus_reload
  bestQuizScore _ := bestQuizScorePercent_reload
  reviewQueue := by
    have hrecords : t.reviewRecords.orderBy rank = t.reviewRecords :=
      orderBy_eq_self h.reviews
    rw [reviewQueue, reload, hrecords, reviewQueue]
  timeline _ := rfl

/-! ### Runs that add entries in the order of their keys -/

def AttemptInOrder (rank : PyStr → R) (d : Dict PyStr QuizAttempt) (a : QuizAttempt) : Prop :=
  match d.lookup a.id with
  | some old => old.userId = a.userId ∧ old.quizId = a.quizId
  | none => ∀ id ∈ attemptIds d a.userId a.quizId, rank id ≤ rank a.id

/-- The entries that a request adds come after the ones that are there, in the order of their
keys, where answers show the order. -/
structure InKeyOrder (rank : PyStr → R) (v : Setting) (s : Store) (r : Request) : Prop where
  courses : ∀ userId, coursesFor v s userId r ≠ [] →
    Ordered rank ((coursesFor v s userId r).foldl addNew (s.enrollments.courses userId))
  attempts : ∀ userId quizId, r = .createQuizAttempt userId quizId →
    AttemptInOrder rank s.quizAttempts (s.newAttempt v userId quizId)
  reviews : ∀ labId learnerId metadata result, r = .submitLab labId learnerId metadata result →
    Ordered rank (addNew s.reviewRecords.keys (s.labSubmissionId v labId learnerId))

theorem attemptIds_set_of_none {d : Dict PyStr QuizAttempt} {id : PyStr} {a : QuizAttempt}
    (h : d.lookup id = none) (userId quizId : PyStr) :
    attemptIds (d.set id a) userId quizId =
      attemptIds d userId quizId ++
        (if a.userId = userId ∧ a.quizId = quizId then [id] else []) := by
  rw [attemptIds, rows_set_of_none h, attemptIds]
  by_cases hsame : a.userId = userId ∧ a.quizId = quizId
  · simp [hsame]
  · simp [hsame]

theorem attemptIds_set_of_some {d : Dict PyStr QuizAttempt} {id : PyStr} {a old : QuizAttempt}
    (h : d.lookup id = some old) (huser : old.userId = a.userId) (hquiz : old.quizId = a.quizId)
    (userId quizId : PyStr) :
    attemptIds (d.set id a) userId quizId = attemptIds d userId quizId := by
  have hrows : ∀ e ∈ d.rows, e.1 = id → e.2 = old := by
    rintro ⟨k, a'⟩ he rfl
    exact Option.some.inj ((lookup_eq_some_iff.mpr he).symm.trans h)
  have hfilter : d.rows.filter ((fun e => decide (e.2.userId = userId ∧ e.2.quizId = quizId)) ∘
      fun e => if e.1 = id then (e.1, a) else e) =
        d.rows.filter fun e => decide (e.2.userId = userId ∧ e.2.quizId = quizId) := by
    refine filter_congr fun e he => ?_
    rw [Function.comp_apply]
    split
    · next hid => rw [hrows e he hid, huser, hquiz]
    · rfl
  rw [attemptIds, rows_set_of_some h, filter_map, hfilter, map_map]
  refine map_congr_left fun e _ => ?_
  rw [Function.comp_apply]
  split <;> rfl

theorem ordered_addNew_of_mem {ks : List PyStr} {k : PyStr} (hks : Ordered rank ks) (hk : k ∈ ks) :
    Ordered rank (addNew ks k) := by
  rw [addNew, if_pos hk]
  exact hks

theorem ordered_attemptIds_of_served (hs : KeyOrdered rank s.toTables) (hserved : Served v s r s')
    (horder : InKeyOrder rank v s r) (userId quizId : PyStr) :
    Ordered rank (attemptIds s'.quizAttempts userId quizId) := by
  have hattempts := hserved.attempts
  cases r with
  | createQuizAttempt u q =>
    have hset : s'.quizAttempts =
        s.quizAttempts.set (s.newAttempt v u q).id (s.newAttempt v u q) := hattempts
    have hnew := horder.attempts u q rfl
    rw [AttemptInOrder] at hnew
    rw [hset]
    cases hfound : s.quizAttempts.lookup (s.newAttempt v u q).id with
    | some old =>
      rw [hfound] at hnew
      rw [attemptIds_set_of_some hfound hnew.1 hnew.2]
      exact hs.attempts userId quizId
    | none =>
      rw [hfound] at hnew
      rw [attemptIds_set_of_none hfound]
      split
      · next hsame =>
          obtain ⟨rfl, rfl⟩ := hsame
          refine pairwise_append.mpr
            ⟨hs.attempts _ _, pairwise_singleton _ _, fun id hid id' hid' => ?_⟩
          obtain rfl := mem_singleton.mp hid'
          exact hnew id hid
      · rw [append_nil]
        exact hs.attempts userId quizId
  | submitQuizAttempt u attemptId answers =>
    obtain ⟨a, hfound, -, hset⟩ := hattempts
    have hsame : ∀ now result, a.userId = (a.submitted now answers result).userId ∧
        a.quizId = (a.submitted now answers result).quizId := by
      rintro now (_ | ⟨score, total⟩)
      · exact ⟨rfl, rfl⟩
      · exact ⟨rfl, rfl⟩
    rw [hset, attemptIds_set_of_some hfound (hsame _ _).1 (hsame _ _).2]
    exact hs.attempts userId quizId
  | _ =>
    have hsame : s'.quizAttempts = s.quizAttempts := hattempts
    rw [hsame]
    exact hs.attempts userId quizId

theorem ordered_reviews_of_served (hs : KeyOrdered rank s.toTables) (hserved : Served v s r s')
    (horder : InKeyOrder rank v s r) : Ordered rank s'.reviewRecords.keys := by
  have hreviews := hserved.reviews
  cases r with
  | submitLab labId learnerId metadata result =>
    obtain ⟨course, -, hset⟩ := hreviews
    rw [hset, keys_set]
    exact horder.reviews labId learnerId metadata result rfl
  | overrideReviewItem itemId verdict =>
    obtain ⟨record, hfound, -, hset⟩ := hreviews
    rw [hset, keys_set]
    exact ordered_addNew_of_mem hs.reviews (mem_keys_iff.mpr ⟨record, hfound⟩)
  | _ =>
    have hsame : s'.reviewRecords = s.reviewRecords := hreviews.2
    rw [hsame]
    exact hs.reviews

theorem keyOrdered_of_served (hs : KeyOrdered rank s.toTables) (hserved : Served v s r s')
    (horder : InKeyOrder rank v s r) : KeyOrdered rank s'.toTables where
  enrollments userId := by
    rw [hserved.courses]
    by_cases hnone : coursesFor v s userId r = []
    · rw [hnone]
      exact hs.enrollments userId
    · exact horder.courses userId hnone
  attempts := ordered_attemptIds_of_served hs hserved horder
  reviews := ordered_reviews_of_served hs hserved horder

structure Written (rank : PyStr → R) (s : Store) : Prop where
  ordered : KeyOrdered rank s.toTables
  saved : s.saved = s.toTables

theorem written_step (hs : Written rank s) (horder : InKeyOrder rank v s r) :
    Written rank (step v s r) := by
  refine step_induction (P := Written rank) hs fun s' hserve => ?_
  have hserved := served_of_ok hserve
  refine ⟨keyOrdered_of_served hs.ordered hserved horder, ?_⟩
  rcases hserved.saved with hsaved | rfl
  · exact hsaved
  · exact hs.saved

/-- **A restart changes no answer** in a run that adds entries in the order of their keys. -/
theorem restart_sameAnswers (rank : PyStr → R) (v : Setting) (es : List Request)
    (h : AllSteps (step v) (InKeyOrder rank v) {} es) :
    Always (step v) (fun s => SameAnswers v s.toTables (s.saved.reload rank)) {} es := by
  have hempty : Written rank {} :=
    ⟨⟨fun _ => .nil, fun _ _ => .nil, .nil⟩, rfl⟩
  have hanswers : ∀ s, Written rank s → SameAnswers v s.toTables (s.saved.reload rank) := by
    intro s hs
    rw [hs.saved]
    exact sameAnswers_reload hs.ordered
  exact h.always_of_invariant hempty hanswers fun _ _ hs horder => written_step hs horder

/-- A learner enrols in a course and starts a quiz. -/
theorem restart_sameAnswers_enrolled :
    Always (step oneCourse)
      (fun s => SameAnswers oneCourse s.toTables (s.saved.reload (id : PyStr → PyStr))) {}
      [.enroll "ada".toList "F1".toList, .createQuizAttempt "ada".toList "entry".toList] := by
  refine restart_sameAnswers id oneCourse _ ⟨⟨fun userId _ => ?_, ?_, ?_⟩, ⟨?_, ?_, ?_⟩, trivial⟩
  · rw [coursesFor]
    split
    · exact pairwise_singleton _ _
    · exact .nil
  · exact fun _ _ h => by cases h
  · exact fun _ _ _ _ h => by cases h
  · exact fun _ h => absurd rfl h
  · rintro userId quizId ⟨⟩
    exact fun id h => by cases h
  · exact fun _ _ _ _ h => by cases h

theorem SameProgress.enrollments {x y : TrainingM TrainingProgress} (h : SameProgress x y) :
    TrainingProgress.enrollments <$> y.toOption = TrainingProgress.enrollments <$> x.toOption := by
  cases x with
  | error e =>
    cases y with
    | error e' => rfl
    | ok p' => exact h.elim
  | ok p =>
    cases y with
    | error e' => exact h.elim
    | ok p' =>
      have hsame : p.Same p' := h
      exact congrArg some hsame.enrollments

def twoCourses : Setting :=
  { oneCourse with
    courses := oneCourse.courses ++ [⟨"T1".toList, "T1".toList, [["T1-L1".toList]]⟩] }

/-- A learner enrols in a course, and then in one whose name comes before it. The file that the
collections are kept in is sorted by the names. -/
theorem not_restart_sameAnswers :
    ¬∀ v es, Always (step v)
      (fun s => SameAnswers v s.toTables (s.saved.reload (id : PyStr → PyStr))) {} es := by
  intro h
  have hprogress := ((h twoCourses [.enroll "ada".toList "T1".toList,
    .enroll "ada".toList "F1".toList]).exec.progress "ada".toList).enrollments
  generalize hs : exec (step twoCourses) {} [.enroll "ada".toList "T1".toList,
    .enroll "ada".toList "F1".toList] = s at hprogress
  have hrunning : (fun es : List Enrollment => es.map Enrollment.courseId) <$>
      TrainingProgress.enrollments <$> (s.progress twoCourses "ada".toList).toOption =
        some ["T1".toList, "F1".toList] := by
    subst hs
    decide +kernel
  have hafresh : (fun es : List Enrollment => es.map Enrollment.courseId) <$>
      TrainingProgress.enrollments <$>
        ((s.saved.reload (id : PyStr → PyStr)).progress twoCourses "ada".toList).toOption =
          some ["F1".toList, "T1".toList] := by
    subst hs
    decide +kernel
  rw [hprogress, hrunning] at hafresh
  exact absurd hafresh (by decide)

end IsaUser.Training
