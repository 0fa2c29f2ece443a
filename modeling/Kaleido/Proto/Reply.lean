/-
Replies to attention items (`kaleido-proto`, `attention.rs`): what an accepted reply may choose.

`check_reply` and the validator of an answered item make the same checks of a decision (`validateAnswer_of_checkDecision`), so
that an item can be stored with every reply that was accepted. A question's answers are matched with its prompts by key, one to
one (`answered_once`). The membership check of a top-level option is skipped when the item offers none: that is how the shape of
a response is checked without an item, but a workflow gate that only takes a text may offer none as well.
`replies_choose_offered` says that this is the only way to choose what was not offered, and `gate_takes_any_option` is one.
-/
import Kaleido.Proto.Validate

namespace Kaleido.Proto

open Check

/-! ## What an item offers -/

namespace AttentionSubject

/-- the options of the item itself -/
def options : AttentionSubject → List DecisionOption
  | .approval request => request.options
  | .workflowGate request => request.options
  | .question _ | .connectionFault .. => []

/-- whether the item itself takes a text -/
def freeFormAllowed : AttentionSubject → Bool
  | .workflowGate request => request.freeFormAllowed
  | .approval _ | .question _ | .connectionFault .. => false

def questions : AttentionSubject → List QuestionPrompt
  | .question request => request.questions
  | .approval _ | .workflowGate _ | .connectionFault .. => []

end AttentionSubject

/-- the item with the answer that a local command gave -/
def AttentionItem.answeredBy (item : AttentionItem) (response : AttentionResponse) (decidedAtMs : Int) (commandId : CommandId) :
    AttentionItem :=
  { item with
    state := .answered response.optionId response.freeFormRef response.questionAnswers decidedAtMs (.localCommand commandId) }

/-- the answer fits its question: its options are among the question's, and a text only where one is allowed -/
structure QuestionPrompt.AnsweredBy (question : QuestionPrompt) (answer : QuestionAnswer) : Prop where
  key : question.questionKey = answer.questionKey
  options : ∀ optionId ∈ answer.optionIds, optionId ∈ question.options.map (·.optionId)
  freeForm : answer.freeFormRef.isSome → question.freeFormAllowed

/-- the response chooses what the item offers -/
structure AttentionItem.Offers (item : AttentionItem) (response : AttentionResponse) : Prop where
  option : ∀ optionId, response.optionId = some optionId → optionId ∈ item.subject.options.map (·.optionId)
  freeForm : response.freeFormRef.isSome → item.subject.freeFormAllowed
  answers : ∀ answer ∈ response.questionAnswers, ∃ question ∈ item.subject.questions, question.AnsweredBy answer
  once : ∀ question ∈ item.subject.questions, (response.questionAnswers.map (·.questionKey)).count question.questionKey = 1

section

variable {item : AttentionItem} {response : AttentionResponse} {nowMs : Int}

/-- what `check_reply` accepts passes the checks of the stored answer -/
theorem validateAnswer_of_checkDecision {subject : AttentionSubject}
    (h : AttentionItem.checkDecision response subject = .ok ()) :
    subject.validateAnswer response.optionId response.freeFormRef response.questionAnswers = .ok () := by
  cases subject with
  | connectionFault => cases h
  | approval | question | workflowGate =>
    simpa only [AttentionSubject.validateAnswer, AttentionItem.checkDecision, seq_eq_ok, mapError_eq_ok, ensure_eq_ok] using h

theorem checkReply_eq_ok (h : item.checkReply response nowMs = .ok ()) :
    AttentionItem.checkDecision response item.subject = .ok () := by
  simp only [AttentionItem.checkReply, seq_eq_ok] at h
  obtain ⟨-, -, h⟩ := h
  cases hkey : item.subject.requestKey with
  | none =>
    rw [hkey] at h
    cases h
  | some requestKey =>
    simp only [hkey, seq_eq_ok] at h
    exact h.2.2.2.2.2

theorem answeredBy_valid {decidedAtMs : Int} {commandId : CommandId} (hvalid : item.validate = .ok ())
    (hreply : item.checkReply response nowMs = .ok ()) (hcommand : ¬ commandId.isEmpty) :
    (item.answeredBy response decidedAtMs commandId).validate = .ok () := by
  have hanswer := validateAnswer_of_checkDecision (checkReply_eq_ok hreply)
  simp only [AttentionItem.validate, seq_eq_ok] at hvalid
  obtain ⟨hid, hhost, hproject, hsession, hturn, hworkflow, hsubject, -⟩ := hvalid
  simp only [AttentionItem.answeredBy, AttentionItem.validate, seq_eq_ok]
  exact ⟨hid, hhost, hproject, hsession, hturn, hworkflow, hsubject, hanswer, nonEmpty_eq_ok.mpr hcommand⟩

/-! ## Decisions -/

/-- the top-level decision: an option that is offered, unless none is, and a text only where one is allowed -/
theorem validateTopLevelResponse_eq_ok {options : List DecisionOption} {freeFormAllowed : Bool} {optionId : Option String}
    {freeFormRef : Option ContentRef}
    (h : validateTopLevelResponse options freeFormAllowed optionId freeFormRef = .ok ()) :
    (∀ id, optionId = some id → options = [] ∨ id ∈ options.map (·.optionId)) ∧
      (freeFormRef.isSome → freeFormAllowed = true) := by
  simp only [validateTopLevelResponse, seq_eq_ok, checkSome_eq_ok, ensure_eq_ok] at h
  obtain ⟨hoption, hfree, -⟩ := h
  constructor
  · intro id hid
    rcases (hoption id hid).2 with hnone | hany
    · exact .inl hnone
    · right
      simpa [List.any_eq_true, List.mem_map] using hany
  · intro hsome
    obtain ⟨freeFormRef, hfreeForm⟩ := Option.isSome_iff_exists.mp hsome
    exact (hfree freeFormRef hfreeForm).1

theorem validateQuestionAnswer_fits {request : QuestionRequest} {answer : QuestionAnswer}
    (h : validateQuestionAnswer request answer = .ok ()) : ∃ question ∈ request.questions, question.AnsweredBy answer := by
  unfold validateQuestionAnswer at h
  cases hfound : request.questions.find? fun question => question.questionKey = answer.questionKey with
  | none =>
    rw [hfound] at h
    cases h
  | some question =>
    simp only [hfound, seq_eq_ok, checkAll_eq_ok, ensure_eq_ok] at h
    obtain ⟨-, hoptions, hfree⟩ := h
    refine ⟨question, List.mem_of_find?_eq_some hfound, by simpa using List.find?_some hfound, ?_, ?_⟩
    · intro optionId hoption
      simpa [List.any_eq_true, List.mem_map] using hoptions optionId hoption
    · intro hsome
      by_contra hnot
      exact hfree ⟨hsome, hnot⟩

/-- keys without repetition that are as many as the prompts and name prompts name each of them once -/
theorem answered_once {request : QuestionRequest} {answers : List QuestionAnswer}
    (h : validateQuestionAnswers request answers = .ok ()) {question : QuestionPrompt} (hquestion : question ∈ request.questions) :
    (answers.map (·.questionKey)).count question.questionKey = 1 := by
  simp only [validateQuestionAnswers, validateQuestionAnswersShape, seq_eq_ok, mapError_eq_ok, ensure_eq_ok, checkFresh_eq_ok,
    checkAll_eq_ok] at h
  obtain ⟨⟨-, -, hnodup⟩, hfits, hlength⟩ := h
  have hsubset : answers.map (·.questionKey) ⊆ request.questions.map (·.questionKey) := by
    intro key hkey
    obtain ⟨answer, hanswer, rfl⟩ := List.mem_map.mp hkey
    obtain ⟨prompt, hprompt, hfit⟩ := validateQuestionAnswer_fits (hfits answer hanswer)
    exact List.mem_map.mpr ⟨prompt, hprompt, hfit.key⟩
  have hperm : (answers.map (·.questionKey)).Perm (request.questions.map (·.questionKey)) :=
    (List.subperm_of_subset hnodup hsubset).perm_of_length_le (by simp [hlength])
  exact List.count_eq_one_of_mem hnodup (hperm.mem_iff.mpr (List.mem_map_of_mem hquestion))

theorem offers_top_level (hquestions : item.subject.questions = []) (hanswers : response.questionAnswers = [])
    (h : validateTopLevelResponse item.subject.options item.subject.freeFormAllowed response.optionId response.freeFormRef = .ok ())
    (hcondition : ¬ (item.subject.options = [] ∧ response.optionId.isSome)) : item.Offers response := by
  obtain ⟨hoption, hfree⟩ := validateTopLevelResponse_eq_ok h
  refine ⟨?_, hfree, by simp [hanswers], by simp [hquestions]⟩
  intro optionId hid
  rcases hoption optionId hid with hnone | hmem
  · exact absurd ⟨hnone, by rw [hid]; rfl⟩ hcondition
  · exact hmem

theorem offers_of_checkDecision (h : AttentionItem.checkDecision response item.subject = .ok ())
    (hcondition : ¬ (item.subject.options = [] ∧ response.optionId.isSome)) : item.Offers response := by
  cases hsubject : item.subject with
  | connectionFault =>
    rw [hsubject] at h
    cases h
  | approval | workflowGate =>
    simp only [hsubject, AttentionItem.checkDecision, seq_eq_ok, ensure_eq_ok] at h
    exact offers_top_level (by rw [hsubject]; rfl) h.1 (by rw [hsubject]; exact h.2) hcondition
  | question request =>
    simp only [hsubject, AttentionItem.checkDecision, seq_eq_ok, ensure_eq_ok, not_or, Bool.not_eq_true,
      Option.isSome_eq_false_iff, Option.isNone_iff_eq_none] at h
    obtain ⟨⟨hoption, hfree⟩, hanswers⟩ := h
    have hfits := hanswers
    simp only [validateQuestionAnswers, seq_eq_ok, checkAll_eq_ok] at hfits
    refine ⟨by simp [hoption], by simp [hfree], ?_, ?_⟩
    · rw [hsubject]
      exact fun answer hanswer => validateQuestionAnswer_fits (hfits.2.1 answer hanswer)
    · rw [hsubject]
      exact fun question hquestion => answered_once hanswers hquestion

end

/-- **An accepted reply chooses what was offered exactly when it names no option of an item that offers none.** The item with
the answer passes its check in any case. -/
theorem replies_choose_offered (item : AttentionItem) (response : AttentionResponse) (nowMs decidedAtMs : Int)
    (commandId : CommandId) (hvalid : item.validate = .ok ()) (hreply : item.checkReply response nowMs = .ok ())
    (hcommand : ¬ commandId.isEmpty) :
    (item.answeredBy response decidedAtMs commandId).validate = .ok () ∧ item.Offers response ↔
      ¬ (item.subject.options = [] ∧ response.optionId.isSome) := by
  constructor
  · rintro ⟨-, hoffers⟩ ⟨hnone, hsome⟩
    obtain ⟨optionId, hoption⟩ := Option.isSome_iff_exists.mp hsome
    have hmem := hoffers.option optionId hoption
    rw [hnone] at hmem
    cases hmem
  · intro hcondition
    exact ⟨answeredBy_valid hvalid hreply hcommand, offers_of_checkDecision (checkReply_eq_ok hreply) hcondition⟩

/-! ### A gate that only takes a text -/

def gatePrompt : ContentRef :=
  ⟨⟨"content"⟩, .plainText, 1, "sha256:" ++ String.ofList (List.replicate 64 'a'), none, .sensitive, .stored⟩

/-- an open gate of a workflow that offers no options and takes a text -/
def textGate : AttentionItem where
  id := ⟨"attention"⟩
  hostId := ⟨"host"⟩
  projectId := ⟨"project"⟩
  sessionId := none
  turnId := none
  workflowId := some ⟨"workflow"⟩
  subject := .workflowGate ⟨"request", ⟨"step"⟩, gatePrompt, [], true⟩
  state := .open_
  createdAtMs := 0
  expiresAtMs := none

def replyWith (optionId : Option String) (freeFormRef : Option ContentRef) : AttentionResponse :=
  ⟨⟨"attention"⟩, none, "request", none, optionId, freeFormRef, []⟩

theorem replies_choose_offered_text :
    textGate.validate = .ok () ∧ textGate.checkReply (replyWith none (some gatePrompt)) 0 = .ok () ∧
      textGate.Offers (replyWith none (some gatePrompt)) :=
  ⟨by decide +kernel, by decide +kernel, ((replies_choose_offered textGate (replyWith none (some gatePrompt)) 0 0 ⟨"command"⟩
    (by decide +kernel) (by decide +kernel) (by decide)).mpr (by decide)).2⟩

/-- a reply that names an option is accepted although none is offered -/
theorem gate_takes_any_option : textGate.validate = .ok () ∧ textGate.checkReply (replyWith (some "anything") none) 0 = .ok () ∧
    ¬ textGate.Offers (replyWith (some "anything") none) := by
  refine ⟨by decide +kernel, by decide +kernel, fun h => ?_⟩
  cases h.option "anything" rfl

end Kaleido.Proto
