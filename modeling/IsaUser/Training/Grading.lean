import IsaUser.Lib.Values
import Mathlib.Data.Char
import Mathlib.Data.List.Lex
import Mathlib.Data.List.TakeWhile

/-!
# The Grading of Answers

An answer is a list of texts or one text, and is normalized to its groups of characters, in order:
the texts of a list, or what stands between the white space of a text without its commas. Letters
that stand together, or between commas, are one group. So the same letters can be other groups.
-/

open List

namespace IsaUser.Training

/-! ### Answers -/

inductive Answer where
  | list (items : List PyStr)
  | text (s : PyStr)

/-- `str.upper`, character by character: it makes no white space or comma, and changes none. -/
structure UpperCase where
  upper : Char → PyStr
  upper_separator : ∀ c, isSpace c ∨ c = ',' → upper c = [c]
  eq_of_separator : ∀ c, ∀ d ∈ upper c, isSpace d ∨ d = ',' → d = c

def pieces : PyStr → List PyStr
  | [] => [[]]
  | c :: s =>
    if isSpace c then [] :: pieces s
    else match pieces s with
      | [] => [[c]]
      | piece :: rest => (c :: piece) :: rest

/-- `str.split`. -/
def words (s : PyStr) : List PyStr := (pieces s).filter (· ≠ [])

def sorted (l : List PyStr) : List PyStr := orderBy (fun s => s) l

variable (u : UpperCase)

def Answer.groups : Answer → List PyStr
  | list items => ((items.map PyStr.strip).filter (· ≠ [])).map (·.flatMap u.upper)
  | text s =>
    if words (s.filter (· ≠ ',')) = [] then [s.strip.flatMap u.upper]
    else (words (s.filter (· ≠ ','))).map (·.flatMap u.upper)

def normalizeAnswer : Option Answer → List PyStr
  | none => []
  | some a => sorted (a.groups u)

/-! ### Quizzes -/

structure Question where
  id : PyStr
  module : PyStr
  answer : Option Answer
  explanation : PyStr

structure QuestionReview where
  questionId : PyStr
  correct : Bool
  answer : Option Answer
  correctAnswer : Option Answer
  explanation : PyStr

structure QuizResult where
  score : ℕ
  total : ℕ
  reviews : List QuestionReview

/-- The entries of the payload, those that are lists with their questions, and `str.lower`. -/
structure QuestionBank where
  payload : List (PyStr × Option (List Question))
  lower : PyStr → PyStr

def QuestionBank.questionsForQuiz (b : QuestionBank) (quizId : PyStr) : Option (List Question) :=
  match b.payload.lookup (b.lower quizId) with
  | some (some questions) => some questions
  | _ =>
    let byModule := (b.payload.flatMap (·.2.getD [])).filter (·.module = quizId)
    if byModule = [] then none else some byModule

def Question.review (q : Question) (answers : PyStr → Option Answer) : QuestionReview :=
  { questionId := q.id
    correct := normalizeAnswer u (answers q.id) = normalizeAnswer u q.answer
    answer := answers q.id
    correctAnswer := q.answer
    explanation := q.explanation }

/-- `score_attempt`, unless the quiz is not found. -/
def QuestionBank.scoreAttempt (b : QuestionBank) (quizId : PyStr)
    (answers : PyStr → Option Answer) : Option QuizResult := do
  let questions ← b.questionsForQuiz quizId
  let reviews := questions.map (·.review u answers)
  return { score := reviews.countP (·.correct), total := questions.length, reviews }

/-! ### The law -/

def Answer.chars : Answer → PyStr
  | list items => items.flatten
  | text s => s

def Answer.letters (a : Answer) : Set Char :=
  {d | ¬(isSpace d ∨ d = ',') ∧ d ∈ a.chars.flatMap u.upper}

def IsRight (stored : Answer) (given : Option Answer) (correct : Bool) : Prop :=
  correct = true ↔ ∃ a, given = some a ∧ a.letters u = stored.letters u

def GradesRight (b : QuestionBank) (quizId : PyStr) (answers : PyStr → Option Answer) : Prop :=
  ∀ questions result, b.questionsForQuiz quizId = some questions →
    b.scoreAttempt u quizId answers = some result →
      Forall₂ (fun q review => ∀ stored, q.answer = some stored →
        IsRight u stored (answers q.id) review.correct) questions result.reviews

def Alike (stored : Answer) : Option Answer → Prop
  | none => stored.groups u ≠ []
  | some a => a.letters u = stored.letters u → (a.groups u).Perm (stored.groups u)

/-! ### Letters and groups -/

section Letters

variable {u} {c d : Char} {s : PyStr} {a : Answer}

theorem flatten_words (s : PyStr) : (words s).flatten = s.filter fun c => ¬isSpace c := by
  have hpieces : (pieces s).flatten = s.filter fun c => ¬isSpace c := by
    induction s with
    | nil => rfl
    | cons c s ih =>
      rw [pieces]
      split
      · next h => simpa [h] using ih
      · next h =>
          rw [filter_cons_of_pos (by simpa using h), ← ih]
          split <;> simp [*]
  rw [words, flatten_filter_ne_nil, hpieces]

theorem mem_strip (hc : isSpace c = false) : c ∈ s.strip ↔ c ∈ s := by
  have hdrop (l : PyStr) : c ∈ l.dropWhile isSpace ↔ c ∈ l := by
    refine ⟨fun h => (dropWhile_sublist _).subset h, fun h => ?_⟩
    rw [← takeWhile_append_dropWhile (p := isSpace) (l := l), mem_append] at h
    refine h.resolve_left fun h => ?_
    rw [mem_takeWhile_imp h] at hc
    cases hc
  rw [PyStr.strip, mem_reverse, hdrop, mem_reverse, hdrop]

theorem separator_iff (hd : d ∈ u.upper c) :
    isSpace d ∨ d = ',' ↔ isSpace c ∨ c = ',' := by
  constructor
  · intro h
    rwa [← u.eq_of_separator c d hd h]
  · intro h
    rw [u.upper_separator c h, mem_singleton] at hd
    rwa [hd]

theorem mem_letters_iff :
    d ∈ a.letters u ↔ ¬(isSpace d ∨ d = ',') ∧ d ∈ (a.groups u).flatten := by
  refine and_congr_right fun hd => ?_
  have hspace {c : Char} (hc : d ∈ u.upper c) : isSpace c = false := by
    have := mt (separator_iff hc).mpr hd
    simpa using fun h => this (.inl h)
  cases a with
  | list items =>
    simp only [Answer.chars, Answer.groups, mem_flatMap, mem_flatten, mem_map, mem_filter]
    constructor
    · rintro ⟨c, ⟨item, hitem, hc⟩, hd'⟩
      have hstrip : c ∈ PyStr.strip item := (mem_strip (hspace hd')).mpr hc
      refine ⟨_, ⟨PyStr.strip item, ⟨⟨item, hitem, rfl⟩, ?_⟩, rfl⟩, mem_flatMap.mpr ⟨c, hstrip, hd'⟩⟩
      simpa using ne_nil_of_mem hstrip
    · rintro ⟨_, ⟨_, ⟨⟨item, hitem, rfl⟩, -⟩, rfl⟩, hgroup⟩
      obtain ⟨c, hc, hd'⟩ := mem_flatMap.mp hgroup
      exact ⟨c, ⟨item, hitem, (mem_strip (hspace hd')).mp hc⟩, hd'⟩
  | text s =>
    rw [Answer.groups]
    split
    · rw [flatten_singleton, mem_flatMap, mem_flatMap]
      exact exists_congr fun c => and_congr_left fun hd' => (mem_strip (hspace hd')).symm
    · have hwords : ((words (s.filter (· ≠ ','))).map (·.flatMap u.upper)).flatten =
          (words (s.filter (· ≠ ','))).flatten.flatMap u.upper := by
        generalize words (s.filter (· ≠ ',')) = ws
        induction ws with
        | nil => rfl
        | cons w ws ih => rw [map_cons, flatten_cons, flatten_cons, flatMap_append, ih]
      rw [hwords, flatten_words, mem_flatMap, mem_flatMap]
      refine exists_congr fun c => and_congr_left fun hd' => ?_
      have hcomma : c ≠ ',' := fun h => hd ((separator_iff hd').mpr (.inr h))
      simp [Answer.chars, mem_filter, hcomma, hspace hd']

theorem letters_of_perm {a' : Answer} (h : (a.groups u).Perm (a'.groups u)) :
    a.letters u = a'.letters u := by
  ext d
  rw [mem_letters_iff, mem_letters_iff, h.flatten.mem_iff]

theorem normalizeAnswer_eq_iff {a' : Answer} :
    normalizeAnswer u (some a) = normalizeAnswer u (some a') ↔ (a.groups u).Perm (a'.groups u) := by
  constructor
  · intro h
    have hsorted : (sorted (a.groups u)).Perm (a'.groups u) := by
      rw [show sorted (a.groups u) = sorted (a'.groups u) from h]
      exact orderBy_perm _ _
    exact (orderBy_perm _ _).symm.trans hsorted
  · intro h
    exact Perm.eq_of_pairwise' (pairwise_orderBy _ _) (pairwise_orderBy _ _)
      ((orderBy_perm _ _).trans (h.trans (orderBy_perm _ _).symm))

theorem isRight_iff {stored : Answer} {given : Option Answer} :
    IsRight u stored given (normalizeAnswer u given = normalizeAnswer u (some stored)) ↔
      Alike u stored given := by
  rw [IsRight, decide_eq_true_iff]
  cases given with
  | none =>
    have hnil : normalizeAnswer u none = normalizeAnswer u (some stored) ↔ stored.groups u = [] := by
      rw [← length_eq_zero_iff, ← (orderBy_perm (fun s => s) (stored.groups u)).length_eq,
        length_eq_zero_iff]
      exact eq_comm
    rw [hnil]
    simp [Alike]
  | some a =>
    rw [normalizeAnswer_eq_iff]
    simp only [Option.some.injEq, exists_eq_left']
    exact ⟨fun h => h.mpr, fun h => ⟨letters_of_perm, h⟩⟩

end Letters

/-- **Answer grading does not depend on notation**, just if no answer of the quiz has the letters of
the stored one in other groups, and no question without an answer is stored with no groups. -/
theorem gradesRight_iff (u : UpperCase) (b : QuestionBank) (quizId : PyStr)
    (answers : PyStr → Option Answer) : GradesRight u b quizId answers ↔
      ∀ questions, b.questionsForQuiz quizId = some questions → ∀ q ∈ questions, ∀ stored,
        q.answer = some stored → Alike u stored (answers q.id) := by
  have hreview (questions : List Question) :
      Forall₂ (fun q review => ∀ stored, q.answer = some stored →
        IsRight u stored (answers q.id) review.correct) questions (questions.map (·.review u answers)) ↔
      ∀ q ∈ questions, ∀ stored, q.answer = some stored → Alike u stored (answers q.id) := by
    rw [forall₂_map_right_iff, forall₂_same]
    refine forall₂_congr fun q _ => forall₂_congr fun stored hstored => ?_
    rw [Question.review, hstored, isRight_iff]
  constructor
  · intro h questions hquestions
    exact (hreview questions).mp (h questions _ hquestions (by
      rw [QuestionBank.scoreAttempt, hquestions]
      rfl))
  · intro h questions result hquestions hresult
    rw [QuestionBank.scoreAttempt, hquestions] at hresult
    obtain rfl := Option.some.inj hresult
    exact (hreview questions).mpr (h questions hquestions)

/-! ### An answer whose letters stand together -/

def capitals : UpperCase where
  upper c := [c]
  upper_separator _ _ := rfl
  eq_of_separator _ _ hd _ := mem_singleton.mp hd

def oneQuestion : QuestionBank where
  payload := [(['e'], some [⟨['q'], ['m'], some (.text ['A', 'B']), []⟩])]
  lower s := s

/-- The answer "A B" has the letters of the stored one, and is marked as wrong. -/
theorem not_gradesRight_together :
    ¬GradesRight capitals oneQuestion ['e'] fun _ => some (.text ['A', ' ', 'B']) := by
  intro h
  cases h _ _ rfl rfl with
  | cons hright _ =>
    have hletters : (Answer.text ['A', ' ', 'B']).letters capitals =
        (Answer.text ['A', 'B']).letters capitals := by
      have hflat : ((Answer.text ['A', ' ', 'B']).groups capitals).flatten =
          ((Answer.text ['A', 'B']).groups capitals).flatten := by decide
      ext d
      rw [mem_letters_iff, mem_letters_iff, hflat]
    exact absurd ((hright _ rfl).mpr ⟨_, rfl, hletters⟩) (by decide)

end IsaUser.Training
