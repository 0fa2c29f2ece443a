/-
The product helpers of the phone (`kaleido-core`, `product.rs`): the answer to a set of questions, checked before the first
free-form body is uploaded, and the read of a stored text in chunks.

`question_validation_agrees` says that the phone's check of an answer and the host's checks of the response built from it
accept the same answers. `text_round_trip_iff` says when a stored text comes back: the loop asks for at least one byte, so that
an empty body is an error for it.
-/
import Kaleido.State.Synced
import Kaleido.Transport.Pairing
import Kaleido.Core.Worker

namespace Kaleido.Core

open Check Proto State Transport

variable {answers : List MobileQuestionAnswer} {answer : MobileQuestionAnswer}

/-- `.map_err(|_| MobileClientError::Contract)` -/
def asContract {ε α : Type} (checked : Except ε α) : Except MobileClientError α := checked.mapError fun _ => .contract

/-! ## The check of an answer -/

structure MobileQuestionAnswer where
  questionKey : String
  optionIds : List String
  freeForm : Option String
  deriving DecidableEq

/-- the checks made on one answer, once its key is known to be new -/
def validateMobileQuestionAnswer (request : QuestionRequest) (answer : MobileQuestionAnswer) :
    Except MobileClientError Bool :=
  match request.questions.find? (fun question => question.questionKey = answer.questionKey) with
  | none => .error .contract
  | some question => do
    ensure (¬ (answer.optionIds = [] ∧ answer.freeForm.isNone)) .contract
    checkSome (fun text => ensure (¬ (trim text = "" ∨ ¬ question.freeFormAllowed ∨
      ¬ (1 ≤ (utf8 text).length ∧ (utf8 text).length ≤ maxContentWriteBytes))) .contract) answer.freeForm
    ensure (¬ (¬ question.multiSelect ∧ answer.optionIds.length > 1)) .contract
    checkFresh id (fun _ => .contract) (fun optionId => ensure (optionId ≠ "") .contract)
      (fun optionId => ensure (question.options.any fun option => option.optionId = optionId) .contract) []
      answer.optionIds
    return question.freeFormAllowed

/-- the loop over the answers, with the keys seen so far -/
def validateMobileAnswersFrom (request : QuestionRequest) :
    List String → List MobileQuestionAnswer → Except MobileClientError (List Bool)
  | _, [] => .ok []
  | seen, answer :: rest => do
    ensure (answer.questionKey ∉ seen) .contract
    let freeFormAllowed ← validateMobileQuestionAnswer request answer
    let later ← validateMobileAnswersFrom request (answer.questionKey :: seen) rest
    return freeFormAllowed :: later

/-- `validate_mobile_question_answers` -/
def validateMobileQuestionAnswers (request : QuestionRequest) (answers : List MobileQuestionAnswer) :
    Except MobileClientError (List Bool) := do
  ensure (answers.length = request.questions.length) .contract
  validateMobileAnswersFrom request [] answers

/-! ## The response -/

/-- `ContentWriteResponse::validate_for`, up to the violation it names -/
def validateFor (request : ContentWriteRequest) (response : ContentWriteResponse) : Except MobileClientError Unit := do
  ensure request.valid .contract
  match response with
  | .stored contentRef => do
    asContract contentRef.validate
    ensure (contentRef.sensitivity = .sensitive) .contract
    ensure (contentRef.availability = .stored) .contract
    ensure (contentRef.kind = request.contentKind ∧ contentRef.byteLen = request.byteLen ∧
      contentRef.digest = request.digest) .contract
  | .rejected error => asContract error.validate

section

variable (env : Env) (writeContent : ContentWriteRequest → List UInt8 → Except MobileClientError ContentWriteResponse)

/-- `upload_sensitive_text` -/
def uploadSensitiveText (text : String) : Except MobileClientError ContentRef := do
  let bytes := utf8 text
  ensure (1 ≤ bytes.length ∧ bytes.length ≤ maxContentWriteBytes) .contract
  let request : ContentWriteRequest := ⟨.plainText, bytes.length, "sha256:" ++ env.hexDigest bytes⟩
  let response ← writeContent request bytes
  validateFor request response
  match response with
  | .stored contentRef => return contentRef
  | .rejected _ => .error .remoteRejected

/-- the upload of one answer's free-form text -/
def uploadAnswer (answer : MobileQuestionAnswer) (freeFormAllowed : Bool) : Except MobileClientError QuestionAnswer :=
  match answer.freeForm with
  | none => return ⟨answer.questionKey, answer.optionIds, none⟩
  | some text => do
    ensure freeFormAllowed .contract
    let reference ← uploadSensitiveText env writeContent text
    return ⟨answer.questionKey, answer.optionIds, some reference⟩

/-- `respond_question_text`: the command it hands to `submit_command` -/
def respondQuestionText (attention : AttentionItem) (answers : List MobileQuestionAnswer) (idempotencyKey : String) :
    Except MobileClientError DeviceCommandRequest :=
  match attention.subject with
  | .question request => do
    let freeFormAllowed ← validateMobileQuestionAnswers request answers
    let questionAnswers ← (answers.zip freeFormAllowed).mapM fun pair => uploadAnswer env writeContent pair.1 pair.2
    match attention.subject.requestKey with
    | none => .error .contract
    | some requestKey => do
      let response : AttentionResponse :=
        ⟨attention.id, attention.sessionId, requestKey, attention.expiresAtMs, none, none, questionAnswers⟩
      asContract response.validate
      let command : DeviceCommandRequest := ⟨idempotencyKey, none, .respondAttention response⟩
      asContract command.validate
      return command
  | _ => .error .contract

end

/-- an answer with its text uploaded -/
def MobileQuestionAnswer.uploaded (upload : String → ContentRef) (answer : MobileQuestionAnswer) : QuestionAnswer :=
  ⟨answer.questionKey, answer.optionIds, answer.freeForm.map upload⟩

/-- the response to a question, with every text uploaded -/
def questionResponse (attention : AttentionItem) (request : QuestionRequest) (upload : String → ContentRef)
    (answers : List MobileQuestionAnswer) : AttentionResponse :=
  ⟨attention.id, attention.sessionId, request.requestKey, attention.expiresAtMs, none, none,
    answers.map (MobileQuestionAnswer.uploaded upload)⟩

theorem validateMobileAnswersFrom_length {request : QuestionRequest} {seen : List String} {allowed : List Bool}
    (h : validateMobileAnswersFrom request seen answers = .ok allowed) : allowed.length = answers.length := by
  induction answers generalizing seen allowed with
  | nil =>
    cases h
    rfl
  | cons answer rest ih =>
    simp only [validateMobileAnswersFrom, bind_eq_ok, pure_eq_ok] at h
    obtain ⟨-, -, first, -, later, hlater, rfl⟩ := h
    rw [List.length_cons, List.length_cons, ih hlater]

section

variable {env : Env} {writeContent : ContentWriteRequest → List UInt8 → Except MobileClientError ContentWriteResponse}
  {upload : String → ContentRef}

theorem uploadAnswer_eq_ok {allowed : Bool} {built : QuestionAnswer}
    (hupload : ∀ text, answer.freeForm = some text → uploadSensitiveText env writeContent text = .ok (upload text))
    (h : uploadAnswer env writeContent answer allowed = .ok built) : built = answer.uploaded upload := by
  unfold uploadAnswer at h
  rw [MobileQuestionAnswer.uploaded]
  cases hfree : answer.freeForm with
  | none =>
    simp only [hfree, pure_eq_ok] at h
    exact h.symm
  | some text =>
    simp only [hfree, hupload text hfree, bind_eq_ok, pure_eq_ok] at h
    obtain ⟨-, -, reference, hreference, rfl⟩ := h
    cases hreference
    rfl

theorem uploadAnswers_eq_ok {allowed : List Bool} {built : List QuestionAnswer} (hlength : allowed.length = answers.length)
    (hupload : ∀ answer ∈ answers, ∀ text, answer.freeForm = some text →
      uploadSensitiveText env writeContent text = .ok (upload text))
    (h : (answers.zip allowed).mapM (fun pair => uploadAnswer env writeContent pair.1 pair.2) = .ok built) :
    built = answers.map (MobileQuestionAnswer.uploaded upload) := by
  induction answers generalizing allowed built with
  | nil =>
    cases h
    rfl
  | cons answer rest ih =>
    obtain ⟨first, later, rfl⟩ := List.exists_cons_of_length_eq_add_one hlength
    rw [List.zip_cons_cons, List.mapM_cons, bind_eq_ok] at h
    obtain ⟨one, hone, h⟩ := h
    rw [bind_eq_ok] at h
    obtain ⟨others, hothers, hbuilt⟩ := h
    rw [pure_eq_ok] at hbuilt
    rw [← hbuilt, List.map_cons, uploadAnswer_eq_ok (hupload answer List.mem_cons_self) hone,
      ih (by simpa using hlength) (fun other hother => hupload other (List.mem_cons_of_mem _ hother)) hothers]

/-- with the uploads made, the command carries the response to the question -/
theorem respondQuestionText_response {attention : AttentionItem} {request : QuestionRequest} {idempotencyKey : String}
    {command : DeviceCommandRequest}
    (hsubject : attention.subject = .question request)
    (hupload : ∀ answer ∈ answers, ∀ text, answer.freeForm = some text →
      uploadSensitiveText env writeContent text = .ok (upload text))
    (h : respondQuestionText env writeContent attention answers idempotencyKey = .ok command) :
    command.body = .respondAttention (questionResponse attention request upload answers) := by
  unfold respondQuestionText at h
  simp only [hsubject, AttentionSubject.requestKey, bind_eq_ok, pure_eq_ok] at h
  obtain ⟨allowed, hallowed, built, hbuilt, -, -, -, -, rfl⟩ := h
  rw [validateMobileQuestionAnswers, seq_eq_ok] at hallowed
  rw [questionResponse, uploadAnswers_eq_ok (validateMobileAnswersFrom_length hallowed.2) hupload hbuilt]

end

/-! ## The two checks agree -/

/-- what both sides ask of one answer: its question exists, it decides something, and it takes what the question offers -/
def Fits (request : QuestionRequest) (answer : MobileQuestionAnswer) : Prop :=
  ∃ question, request.questions.find? (fun question => question.questionKey = answer.questionKey) = some question ∧
    ¬ (answer.optionIds = [] ∧ answer.freeForm.isSome = false) ∧
    (answer.freeForm.isSome = true → question.freeFormAllowed = true) ∧
    (question.multiSelect = false → answer.optionIds.length ≤ 1) ∧
    (∀ optionId ∈ answer.optionIds, optionId ≠ "" ∧ ∃ option ∈ question.options, option.optionId = optionId) ∧
    answer.optionIds.Nodup

/-- a text that the phone accepts as a free-form answer -/
def TextAllowed (text : String) : Prop := trim text ≠ "" ∧ (utf8 text).length ≤ maxContentWriteBytes

theorem length_utf8_pos {text : String} (h : trim text ≠ "") : 1 ≤ (utf8 text).length := by
  by_contra hzero
  have hnil : utf8 text = utf8 "" := List.length_eq_zero_iff.mp (by omega)
  rw [utf8_inj hnil] at h
  exact h rfl

section

variable {request : QuestionRequest} {upload : String → ContentRef}

theorem validateMobileQuestionAnswer_eq_ok (htext : ∀ text, answer.freeForm = some text → TextAllowed text) :
    (∃ allowed, validateMobileQuestionAnswer request answer = .ok allowed) ↔
      Fits request answer := by
  unfold validateMobileQuestionAnswer Fits
  cases hquestion : request.questions.find? (fun question => question.questionKey = answer.questionKey) with
  | none => simp
  | some question =>
    cases hfree : answer.freeForm with
    | none =>
      simp only [seq_eq_ok, ensure_eq_ok, checkSome_none, checkFresh_eq_ok, pure_eq_ok, Option.some.injEq]
      simp
    | some text =>
      have hallowed : TextAllowed text := htext text hfree
      have hpos : 1 ≤ (utf8 text).length := length_utf8_pos hallowed.1
      simp only [seq_eq_ok, ensure_eq_ok, checkSome_some, checkFresh_eq_ok, pure_eq_ok, Option.some.injEq]
      simp [hallowed.1, hallowed.2, hpos]

theorem validateQuestionAnswer_eq_ok (hupload : ∀ text, answer.freeForm = some text → freeFormValid (upload text)) :
    (validateAnswerOptionsShape (answer.uploaded upload) = .ok () ∧
        validateQuestionAnswer request (answer.uploaded upload) = .ok ()) ↔
      Fits request answer := by
  unfold validateAnswerOptionsShape validateQuestionAnswer Fits MobileQuestionAnswer.uploaded
  cases hquestion : request.questions.find? (fun question => question.questionKey = answer.questionKey) with
  | none => simp
  | some question =>
    have hrefs : ∀ reference, answer.freeForm.map upload = some reference → freeFormValid reference := by
      intro reference hreference
      obtain ⟨text, htext, rfl⟩ := Option.map_eq_some_iff.mp hreference
      exact hupload text htext
    simp only [seq_eq_ok, ensure_eq_ok, checkSome_eq_ok, checkAll_eq_ok, checkFresh_eq_ok]
    constructor
    · rintro ⟨⟨⟨hnames, hnodup⟩, hdecides, -⟩, hmulti, hoffered, hfree⟩
      refine ⟨question, rfl, ?_, ?_, ?_, ?_, ?_⟩
      · simpa using hdecides
      · simpa using hfree
      · simpa using hmulti
      · intro optionId hoption
        exact ⟨(hnames optionId hoption).1, by simpa using hoffered optionId hoption⟩
      · simpa using hnodup
    · rintro ⟨found, hfound, hdecides, hfree, hmulti, hoffered, hnodup⟩
      cases hfound
      refine ⟨⟨⟨?_, ?_⟩, ?_, hrefs⟩, ?_, ?_, ?_⟩
      · intro optionId hoption
        exact ⟨(hoffered optionId hoption).1, List.not_mem_nil, trivial⟩
      · simpa using hnodup
      · simpa using hdecides
      · simpa using hmulti
      · intro optionId hoption
        simpa using (hoffered optionId hoption).2
      · simpa using hfree

/-- the loop is a check of fresh keys -/
theorem validateMobileAnswersFrom_checkFresh {seen : List String} :
    (∃ allowed, validateMobileAnswersFrom request seen answers = .ok allowed) ↔
      checkFresh (·.questionKey) (fun _ => MobileClientError.contract) (fun _ => .ok ())
        (fun answer => (validateMobileQuestionAnswer request answer).map fun _ => ()) seen answers = .ok () := by
  induction answers generalizing seen with
  | nil => simp [validateMobileAnswersFrom, checkFresh]
  | cons answer rest ih =>
    simp only [validateMobileAnswersFrom, checkFresh, ← ih, bind_eq_ok, pure_eq_ok, true_and]
    cases validateMobileQuestionAnswer request answer <;> simp [Except.map]

/-- what the phone accepts -/
theorem validateMobileQuestionAnswers_eq_ok
    (htexts : ∀ answer ∈ answers, ∀ text, answer.freeForm = some text → TextAllowed text) :
    (∃ allowed, validateMobileQuestionAnswers request answers = .ok allowed) ↔
      answers.length = request.questions.length ∧ (answers.map (·.questionKey)).Nodup ∧
      ∀ answer ∈ answers, Fits request answer := by
  have hone : ∀ answer ∈ answers, (validateMobileQuestionAnswer request answer).map (fun _ => ()) = .ok () ↔
      Fits request answer := by
    intro answer hanswer
    rw [← validateMobileQuestionAnswer_eq_ok (htexts answer hanswer)]
    cases validateMobileQuestionAnswer request answer <;> simp [Except.map]
  simp only [validateMobileQuestionAnswers, seq_eq_ok, ensure_eq_ok, exists_and_left,
    validateMobileAnswersFrom_checkFresh, checkFresh_eq_ok, List.not_mem_nil, not_false_eq_true, true_and]
  constructor
  · rintro ⟨hlength, hfits, hnodup⟩
    exact ⟨hlength, hnodup, fun answer hanswer => (hone answer hanswer).mp (hfits answer hanswer)⟩
  · rintro ⟨hlength, hnodup, hfits⟩
    exact ⟨hlength, fun answer hanswer => (hone answer hanswer).mpr (hfits answer hanswer), hnodup⟩

/-- what the host accepts, of answers that name their questions -/
theorem validateQuestionAnswers_eq_ok
    (hupload : ∀ answer ∈ answers, ∀ text, answer.freeForm = some text → freeFormValid (upload text)) :
    validateQuestionAnswers request (answers.map (MobileQuestionAnswer.uploaded upload)) = .ok () ↔
      answers ≠ [] ∧ answers.length = request.questions.length ∧ (answers.map (·.questionKey)).Nodup ∧
      ∀ answer ∈ answers, answer.questionKey ≠ "" ∧
        Fits request answer := by
  have hshape : ∀ answer ∈ answers, validateAnswerOptionsShape (answer.uploaded upload) = .ok () ∧
      validateQuestionAnswer request (answer.uploaded upload) = .ok () ↔
      Fits request answer :=
    fun answer hanswer => validateQuestionAnswer_eq_ok (hupload answer hanswer)
  have hkeys : (answers.map (MobileQuestionAnswer.uploaded upload)).map (·.questionKey) =
      answers.map (·.questionKey) := by
    rw [List.map_map]
    rfl
  simp only [validateQuestionAnswers, validateQuestionAnswersShape, seq_eq_ok, mapError_eq_ok, ensure_eq_ok,
    checkFresh_eq_ok, checkAll_eq_ok, List.forall_mem_map, List.length_map, ne_eq, List.map_eq_nil_iff, hkeys]
  constructor
  · rintro ⟨⟨hsome, hfresh, hnodup⟩, hmatch, hlength⟩
    exact ⟨hsome, hlength, hnodup, fun answer hanswer => ⟨(hfresh answer hanswer).1,
      (hshape answer hanswer).mp ⟨(hfresh answer hanswer).2.2, hmatch answer hanswer⟩⟩⟩
  · rintro ⟨hsome, hlength, hnodup, hfits⟩
    exact ⟨⟨hsome, fun answer hanswer => ⟨(hfits answer hanswer).1, List.not_mem_nil,
      ((hshape answer hanswer).mpr (hfits answer hanswer).2).1⟩, hnodup⟩,
      fun answer hanswer => ((hshape answer hanswer).mpr (hfits answer hanswer).2).2, hlength⟩

/-- a valid item with a question names its session, its request and every one of its questions -/
theorem question_valid {attention : AttentionItem} (hsubject : attention.subject = .question request)
    (hvalid : attention.validate = .ok ()) :
    ¬ attention.id.isEmpty ∧ (∀ sessionId, attention.sessionId = some sessionId → ¬ sessionId.isEmpty) ∧
      attention.sessionId.isSome = true ∧ request.requestKey ≠ "" ∧ request.questions ≠ [] ∧
      ∀ question ∈ request.questions, question.questionKey ≠ "" := by
  simp only [AttentionItem.validate, hsubject, AttentionSubject.validate, validateQuestions, seq_eq_ok, nonEmpty,
    ensure_eq_ok, checkSome_eq_ok, checkFresh_eq_ok] at hvalid
  obtain ⟨hid, -, -, hsession, -, -, ⟨hsome, hkey, -, hquestions, hfresh, -⟩, -⟩ := hvalid
  exact ⟨hid, hsession, hsome, hkey, hquestions, fun question hquestion => (hfresh question hquestion).1⟩

theorem Fits.questionKey_ne (h : Fits request answer)
    (hquestions : ∀ question ∈ request.questions, question.questionKey ≠ "") : answer.questionKey ≠ "" := by
  obtain ⟨question, hfound, -⟩ := h
  have hkey : question.questionKey = answer.questionKey := by simpa using List.find?_some hfound
  rw [← hkey]
  exact hquestions question (List.mem_of_find?_eq_some hfound)

/-- **The phone and the host check answers alike.** For a valid open question that has not expired, the phone accepts an
answer exactly when the response built from it passes the two checks of the host. -/
theorem question_validation_agrees {attention : AttentionItem} {request : QuestionRequest} {nowMs : Int}
    (hsubject : attention.subject = .question request) (hvalid : attention.validate = .ok ())
    (hopen : attention.state.isOpen = true) (hunexpired : attention.expiredAt nowMs = false)
    (upload : String → ContentRef) (answers : List MobileQuestionAnswer)
    (htexts : ∀ answer ∈ answers, ∀ text, answer.freeForm = some text → TextAllowed text ∧ freeFormValid (upload text)) :
    (∃ allowed, validateMobileQuestionAnswers request answers = .ok allowed) ↔
      (questionResponse attention request upload answers).validate = .ok () ∧
      attention.checkReply (questionResponse attention request upload answers) nowMs = .ok () := by
  obtain ⟨hid, hsession, hsome, hkey, hquestions, hkeys⟩ := question_valid hsubject hvalid
  have hreply : attention.checkReply (questionResponse attention request upload answers) nowMs = .ok () ↔
      validateQuestionAnswers request (answers.map (MobileQuestionAnswer.uploaded upload)) = .ok () := by
    simp [AttentionItem.checkReply, questionResponse, hsubject, AttentionSubject.requestKey,
      AttentionSubject.requiresSession, hopen, hunexpired, AttentionItem.checkDecision, Option.isSome_iff_ne_none.mp hsome]
  have hresponse : validateQuestionAnswers request (answers.map (MobileQuestionAnswer.uploaded upload)) = .ok () →
      (questionResponse attention request upload answers).validate = .ok () := by
    intro h
    rw [validateQuestionAnswers, seq_eq_ok, mapError_eq_ok] at h
    have hne : (questionResponse attention request upload answers).questionAnswers ≠ [] := by
      have hfirst := h.1
      simp only [validateQuestionAnswersShape, seq_eq_ok, ensure_eq_ok] at hfirst
      exact hfirst.1
    unfold AttentionResponse.validate
    rw [if_pos hne]
    simp only [seq_eq_ok, checkSome_eq_ok, ensure_eq_ok, nonEmpty]
    exact ⟨hid, hkey, hsession, by simp [questionResponse], by simp [questionResponse], h.1⟩
  rw [hreply, and_iff_right_of_imp hresponse,
    validateMobileQuestionAnswers_eq_ok fun answer hanswer text htext => (htexts answer hanswer text htext).1,
    validateQuestionAnswers_eq_ok fun answer hanswer text htext => (htexts answer hanswer text htext).2]
  constructor
  · rintro ⟨hlength, hnodup, hfits⟩
    refine ⟨?_, hlength, hnodup, fun answer hanswer =>
      ⟨(hfits answer hanswer).questionKey_ne hkeys, hfits answer hanswer⟩⟩
    rintro rfl
    exact hquestions (List.length_eq_zero_iff.mp hlength.symm)
  · rintro ⟨-, hlength, hnodup, hfits⟩
    exact ⟨hlength, hnodup, fun answer hanswer => (hfits answer hanswer).2⟩

end

/-- a question with two options that also takes a text -/
def sampleQuestion : QuestionRequest where
  requestKey := "req"
  questions := [⟨"q", ⟨⟨"c"⟩, .plainText, 4, "sha256:" ++ sampleDigest [1, 2, 3, 4], none, .sensitive, .stored⟩,
    [⟨"a", "A", .choose⟩, ⟨"b", "B", .choose⟩], true, true⟩]
  bindingHandle := ⟨⟨"bnd_00000001"⟩, ⟨"rt"⟩, .interactionRequest⟩

def sampleAttention : AttentionItem where
  id := ⟨"att"⟩
  hostId := ⟨"hst"⟩
  projectId := ⟨"prj"⟩
  sessionId := some ⟨"ses"⟩
  turnId := none
  workflowId := none
  subject := .question sampleQuestion
  state := .open_
  createdAtMs := 0
  expiresAtMs := some 100

def sampleUpload (text : String) : ContentRef :=
  ⟨⟨sampleDigest (utf8 text)⟩, .plainText, (utf8 text).length, "sha256:" ++ sampleDigest (utf8 text), none, .sensitive, .stored⟩

def sampleAnswers : List MobileQuestionAnswer := [⟨"q", ["b", "a"], some "why"⟩]

/-- the two checks on an answer with two options and a text -/
theorem question_validation_sample :
    (∃ allowed, validateMobileQuestionAnswers sampleQuestion sampleAnswers = .ok allowed) ↔
      (questionResponse sampleAttention sampleQuestion sampleUpload sampleAnswers).validate = .ok () ∧
      sampleAttention.checkReply (questionResponse sampleAttention sampleQuestion sampleUpload sampleAnswers) 5 = .ok () := by
  refine question_validation_agrees rfl (by decide +kernel) rfl rfl sampleUpload sampleAnswers ?_
  intro answer hanswer text htext
  obtain rfl : answer = ⟨"q", ["b", "a"], some "why"⟩ := by simpa [sampleAnswers] using hanswer
  obtain rfl : "why" = text := by simpa using htext
  exact ⟨⟨by decide +kernel, by decide +kernel⟩, by decide +kernel⟩

/-! ## Reading a text -/

/-- `MOBILE_TEXT_RENDER_LIMIT` -/
def mobileTextRenderLimit : Nat := 256 * 1024

inductive MobileTextContent where
  | available (text : String)
  | unavailable (reason : ContentUnavailableReason)
  | tooLarge (byteLen : Nat)
  deriving DecidableEq

/-- `checked_next_offset` -/
def checkedNextOffset (current next total : Nat) : Except MobileClientError Nat := do
  ensure (¬ (next ≤ current ∨ next > total)) .contract
  return next

/-- what one round of the loop of `read_text_content` comes to -/
inductive ReadRound where
  | unavailable (reason : ContentUnavailableReason)
  | complete (bytes : List UInt8)
  | more (offset : Nat) (bytes : List UInt8)
  deriving DecidableEq

/-- the read that a round asks for: the rest of the body, or as much of it as one read returns -/
def nextRequest (content : ContentRef) (offset : Nat) : ContentReadRequest :=
  ⟨content.contentId, offset, min (content.byteLen - offset) maxContentReadBytes⟩

/-- the reply to a read at the offset, after the bytes read so far -/
def takeResponse (content : ContentRef) (offset : Nat) (bytes : List UInt8) :
    ContentReadResponse → Except MobileClientError ReadRound
  | .unavailable contentId reason => do
    ensure (contentId = content.contentId) .contract
    return .unavailable reason
  | .chunk chunk => do
    ensure (¬ (chunk.contentId ≠ content.contentId ∨ chunk.offset ≠ offset ∨ chunk.digest ≠ content.digest)) .contract
    if chunk.eof then return .complete (bytes ++ chunk.bytes)
    else match chunk.nextOffset with
      | none => .error .contract
      | some next => do
        let offset ← checkedNextOffset offset next content.byteLen
        return .more offset (bytes ++ chunk.bytes)

section

variable (env : Env) (readContent : ContentReadRequest → Except MobileClientError ContentReadResponse)

/-- one round of the loop -/
def readRound (content : ContentRef) (offset : Nat) (bytes : List UInt8) : Except MobileClientError ReadRound := do
  ensure (offset ≤ content.byteLen) .contract
  ensure ((nextRequest content offset).maxBytes ≠ 0) .contract
  let response ← readContent (nextRequest content offset)
  asContract response.validate
  takeResponse content offset bytes response

/-- the bytes that the loop ended with, as a text -/
def finishText (content : ContentRef) (bytes : List UInt8) : Except MobileClientError MobileTextContent := do
  ensure (bytes.length = content.byteLen ∧ "sha256:" ++ env.hexDigest bytes = content.digest) .contract
  match String.fromUTF8? ⟨bytes.toArray⟩ with
  | none => .error .contract
  | some text => return .available text

/-- the loop of `read_text_content`; `none` stands for rounds that are not over -/
def readRounds (content : ContentRef) : Nat → Nat → List UInt8 → Option (Except MobileClientError MobileTextContent)
  | 0, _, _ => none
  | rounds + 1, offset, bytes =>
    match readRound readContent content offset bytes with
    | .error e => some (.error e)
    | .ok (.unavailable reason) => some (.ok (.unavailable reason))
    | .ok (.complete bytes) => some (finishText env content bytes)
    | .ok (.more offset bytes) => readRounds content rounds offset bytes

/-- `read_text_content`, with a bound on the rounds of its loop -/
def readTextContent (content : ContentRef) (rounds : Nat) : Option (Except MobileClientError MobileTextContent) :=
  match content.validate with
  | .error _ => some (.error .contract)
  | .ok () =>
    if content.byteLen > mobileTextRenderLimit then some (.ok (.tooLarge content.byteLen))
    else match content.availability with
      | .evicted => some (.ok (.unavailable .evicted))
      | .neverStored => some (.ok (.unavailable .neverStored))
      | .inline | .stored => readRounds env readContent content rounds 0 []

end

section

variable {env : Env} {readContent : ContentReadRequest → Except MobileClientError ContentReadResponse} {content : ContentRef}
  {offset rounds : Nat} {bytes body : List UInt8}

/-- a small body in a store that answers the reads of the phone -/
structure Served (env : Env) (readContent : ContentReadRequest → Except MobileClientError ContentReadResponse)
    (c : ContentStore) (content : ContentRef) (body : List UInt8) : Prop where
  load : c.load env content = .ok body
  digest : validDigest (env.hexDigest body) = true
  available : content.availability = .stored
  named : ¬ content.contentId.isEmpty
  small : body.length ≤ mobileTextRenderLimit
  answers : ∀ request response, c.readReference env content request = .ok response → readContent request = .ok response

/-- the chunk that a round asks a stored body for is its next one, or its last -/
theorem takeResponse_chunkOf (hlength : body.length = content.byteLen) (hoffset : offset < body.length) :
    takeResponse content offset (body.take offset) (.chunk (ContentStore.chunkOf content (nextRequest content offset) body)) =
      if body.length ≤ offset + maxContentReadBytes then .ok (.complete body)
      else .ok (.more (offset + maxContentReadBytes) (body.take (offset + maxContentReadBytes))) := by
  have hstop : min (offset + min (content.byteLen - offset) maxContentReadBytes) body.length =
      min (offset + maxContentReadBytes) body.length := by omega
  simp only [takeResponse, ContentStore.chunkOf, nextRequest, hstop]
  by_cases hlast : body.length ≤ offset + maxContentReadBytes
  · rw [if_pos hlast, min_eq_right hlast]
    simp [ensure, pure, Except.pure, bind, Except.bind]
  · have hnext : checkedNextOffset offset (offset + maxContentReadBytes) content.byteLen =
        .ok (offset + maxContentReadBytes) := by
      rw [checkedNextOffset, seq_eq_ok, ensure_eq_ok, pure_eq_ok]
      exact ⟨by simp only [maxContentReadBytes] at *; omega, rfl⟩
    have hbytes : body.take offset ++ (body.take (offset + maxContentReadBytes)).drop offset =
        body.take (offset + maxContentReadBytes) := by
      rw [List.drop_take, Nat.add_sub_cancel_left, ← List.take_add]
    have hopen : ¬ offset + maxContentReadBytes = body.length := by omega
    rw [if_neg hlast, min_eq_left (by omega)]
    simp [ensure, pure, Except.pure, bind, Except.bind, hopen, hnext, hbytes]

namespace Served

variable {c : ContentStore} (h : Served env readContent c content body)

include h

theorem length : body.length = content.byteLen := (load_eq_ok.mp h.load).2.2.1

/-- a round on a stored body -/
theorem readRound_eq (hoffset : offset < body.length) :
    readRound readContent content offset (body.take offset) =
      if body.length ≤ offset + maxContentReadBytes then .ok (.complete body)
      else .ok (.more (offset + maxContentReadBytes) (body.take (offset + maxContentReadBytes))) := by
  have hlength : body.length = content.byteLen := h.length
  have hmax : 1 ≤ (nextRequest content offset).maxBytes ∧ (nextRequest content offset).maxBytes ≤ maxContentReadBytes := by
    simp only [nextRequest, maxContentReadBytes]
    omega
  have hvalid : (nextRequest content offset).validate = .ok () := by
    rw [ContentReadRequest.validate, seq_eq_ok, ensure_eq_ok, nonEmpty_eq_ok]
    exact ⟨h.named, hmax⟩
  have hresponse : c.readReference env content (nextRequest content offset) =
      .ok (.chunk (ContentStore.chunkOf content (nextRequest content offset) body)) :=
    readReference_stored h.load h.digest h.available rfl hvalid hoffset.le (h.small.trans (by decide))
  have hcall := h.answers _ _ hresponse
  have hchecked : asContract
      (ContentReadResponse.chunk (ContentStore.chunkOf content (nextRequest content offset) body)).validate = .ok () :=
    mapError_eq_ok.mpr (readReference_valid hresponse)
  have hbound : ensure (offset ≤ content.byteLen) MobileClientError.contract = .ok () := ensure_eq_ok.mpr (by omega)
  have hasks : ensure ((nextRequest content offset).maxBytes ≠ 0) MobileClientError.contract = .ok () :=
    ensure_eq_ok.mpr (Nat.one_le_iff_ne_zero.mp hmax.1)
  rw [← takeResponse_chunkOf hlength hoffset]
  simp only [readRound, hbound, hasks, hcall, hchecked, bind, Except.bind]

/-- from any offset before its end, the loop reads the rest of a stored body -/
theorem readRounds_eq (hoffset : offset < body.length) (hrounds : body.length < rounds + offset) :
    readRounds env readContent content rounds offset (body.take offset) = some (finishText env content body) := by
  induction rounds generalizing offset with
  | zero => omega
  | succ rounds ih =>
    rw [readRounds, h.readRound_eq hoffset]
    by_cases hlast : body.length ≤ offset + maxContentReadBytes
    · rw [if_pos hlast]
    · rw [if_neg hlast]
      exact ih (by omega) (by simp only [maxContentReadBytes]; omega)

/-- a body with at least one byte is read in full -/
theorem readTextContent_eq (hvalid : content.validate = .ok ()) (hsome : 0 < body.length) (hrounds : body.length < rounds) :
    readTextContent env readContent content rounds = some (finishText env content body) := by
  have hsmall : ¬ content.byteLen > mobileTextRenderLimit := by
    have := h.small
    have := h.length
    omega
  unfold readTextContent
  simp only [hvalid, if_neg hsmall, h.available]
  exact h.readRounds_eq hsome (by omega)

end Served

/-- the text of UTF-8 bytes is the text they come from -/
theorem fromUTF8_utf8 (text : String) : String.fromUTF8? ⟨(utf8 text).toArray⟩ = some text := by
  have hbytes : (⟨(utf8 text).toArray⟩ : ByteArray) = text.toByteArray := rfl
  rw [hbytes, String.fromUTF8?, dif_pos text.isValidUTF8]
  rfl

/-- what `store` returns: a valid reference, and a store that holds the bytes, unless it held others of the same digest -/
theorem store_eq_ok {c stored : ContentStore} {kind : ContentKind} {sensitivity : Sensitivity} {reference : ContentRef}
    (hstore : c.store env kind sensitivity body = .ok (reference, stored))
    (hcollision : ∀ other, c.bodies[(⟨env.hexDigest body⟩ : ContentId)]? = some other →
      env.hexDigest other = env.hexDigest body → other = body) :
    reference = ⟨⟨env.hexDigest body⟩, kind, body.length, "sha256:" ++ env.hexDigest body, none, sensitivity, .stored⟩ ∧
      reference.validate = .ok () ∧ validDigest (env.hexDigest body) = true ∧ stored.load env reference = .ok body := by
  simp only [ContentStore.store, seq_eq_ok, ensure_eq_ok, contract_eq_ok, pure_eq_ok, Prod.mk.injEq] at hstore
  obtain ⟨hdigest, hexisting, hvalid, rfl, rfl⟩ := hstore
  refine ⟨rfl, hvalid, hdigest, load_eq_ok.mpr ⟨hdigest, ?_, rfl, rfl⟩⟩
  cases hbody : c.bodies[(⟨env.hexDigest body⟩ : ContentId)]? with
  | none =>
    have hnew : c.bodies.contains ⟨env.hexDigest body⟩ = false := by
      rw [← Std.ExtTreeMap.isSome_getElem?_eq_contains, hbody]
      rfl
    simp only [hnew, Bool.false_eq_true, if_false]
    rw [OrdMap.get_insert_self]
  | some other =>
    have hold : c.bodies.contains ⟨env.hexDigest body⟩ = true := by
      rw [← Std.ExtTreeMap.isSome_getElem?_eq_contains, hbody]
      rfl
    have hsame : env.hexDigest other = env.hexDigest body := by
      rw [hbody] at hexisting
      simpa using (Bool.and_eq_true_iff.mp hexisting).2
    simp only [hold, if_true, hbody]
    rw [hcollision other hbody hsame]

/-- an empty body: the loop has nothing to ask for -/
theorem readTextContent_empty (hvalid : content.validate = .ok ()) (havailable : content.availability = .stored)
    (hempty : content.byteLen = 0) :
    readTextContent env readContent content (rounds + 1) = some (.error .contract) := by
  have hround : readRound readContent content 0 [] = .error .contract := by
    simp [readRound, nextRequest, hempty, ensure, bind, Except.bind]
  unfold readTextContent
  simp only [hvalid, havailable, hempty, mobileTextRenderLimit, readRounds, hround]
  rfl

end

/-- **A stored text comes back unless it is empty.** The phone that reads the reference of a stored text in chunks ends with
exactly that text, within one round more than the text has bytes; of the empty text it reads nothing and reports a broken
contract. -/
theorem text_round_trip_iff (env : Env) (c stored : ContentStore) (kind : ContentKind) (sensitivity : Sensitivity)
    (text : String) (reference : ContentRef) (hlimit : (utf8 text).length ≤ mobileTextRenderLimit)
    (hstore : c.store env kind sensitivity (utf8 text) = .ok (reference, stored))
    (hcollision : ∀ other, c.bodies[(⟨env.hexDigest (utf8 text)⟩ : ContentId)]? = some other →
      env.hexDigest other = env.hexDigest (utf8 text) → other = utf8 text)
    (readContent : ContentReadRequest → Except MobileClientError ContentReadResponse)
    (hread : ∀ request response, stored.readReference env reference request = .ok response →
      readContent request = .ok response) :
    (∀ rounds, (utf8 text).length < rounds →
      readTextContent env readContent reference rounds = some (.ok (.available text))) ↔ text ≠ "" := by
  obtain ⟨href, hvalid, hdigest, hload⟩ := store_eq_ok hstore hcollision
  have hlength : (utf8 text).length = reference.byteLen := (load_eq_ok.mp hload).2.2.1
  constructor
  · rintro h rfl
    have hone := h 1 (by decide)
    rw [readTextContent_empty hvalid (by rw [href]) (by rw [href]; rfl)] at hone
    cases hone
  · intro hne rounds hrounds
    have hnamed : ¬ reference.contentId.isEmpty := by
      unfold ContentRef.validate at hvalid
      rw [seq_eq_ok, nonEmpty_eq_ok] at hvalid
      exact hvalid.1
    have hserved : Served env readContent stored reference (utf8 text) :=
      ⟨hload, hdigest, by rw [href], hnamed, hlimit, hread⟩
    have hpos : 0 < (utf8 text).length := by
      rw [List.length_pos_iff]
      intro hnil
      exact hne (utf8_inj hnil)
    have hfinish : finishText env reference (utf8 text) = .ok (.available text) := by
      simp only [finishText, fromUTF8_utf8, seq_eq_ok, ensure_eq_ok, pure_eq_ok, and_true]
      exact ⟨hlength, (load_eq_ok.mp hload).2.2.2⟩
    rw [hserved.readTextContent_eq hvalid hpos hrounds, hfinish]

/-- the phone's reads, answered by a store -/
def answeredBy (env : Env) (stored : ContentStore) (reference : ContentRef) (request : ContentReadRequest) :
    Except MobileClientError ContentReadResponse :=
  asContract (stored.readReference env reference request)

/-- a text of three bytes -/
theorem text_round_trip_why : ∃ reference stored,
    ({} : ContentStore).store sampleEnv .plainText .sensitive (utf8 "why") = .ok (reference, stored) ∧
    ((∀ rounds, (utf8 "why").length < rounds →
      readTextContent sampleEnv (answeredBy sampleEnv stored reference) reference rounds = some (.ok (.available "why"))) ↔
        "why" ≠ "") := by
  have hok : (({} : ContentStore).store sampleEnv .plainText .sensitive (utf8 "why")).toOption.isSome = true := by
    decide +kernel
  cases hstore : ({} : ContentStore).store sampleEnv .plainText .sensitive (utf8 "why") with
  | error e =>
    rw [hstore] at hok
    cases hok
  | ok pair =>
    refine ⟨pair.1, pair.2, rfl, text_round_trip_iff sampleEnv {} pair.2 .plainText .sensitive "why" pair.1
      (by decide +kernel) hstore (fun other hother => ?_) (answeredBy sampleEnv pair.2 pair.1)
      fun request response hresponse => mapError_eq_ok.mpr hresponse⟩
    simp at hother

/-- the empty text is stored, and no number of rounds reads it -/
theorem empty_text_unread : ¬ ∀ reference stored,
    ({} : ContentStore).store sampleEnv .plainText .sensitive (utf8 "") = .ok (reference, stored) →
    ∃ rounds, readTextContent sampleEnv (answeredBy sampleEnv stored reference) reference rounds =
      some (.ok (.available "")) := by
  intro h
  have hok : (({} : ContentStore).store sampleEnv .plainText .sensitive (utf8 "")).toOption.isSome = true := by
    decide +kernel
  cases hstore : ({} : ContentStore).store sampleEnv .plainText .sensitive (utf8 "") with
  | error e =>
    rw [hstore] at hok
    cases hok
  | ok pair =>
    obtain ⟨href, hvalid, -⟩ := store_eq_ok hstore fun other hother => by simp at hother
    obtain ⟨rounds, hrounds⟩ := h pair.1 pair.2 hstore
    have havailable : pair.1.availability = .stored := by rw [href]
    have hempty : pair.1.byteLen = 0 := by
      rw [href]
      rfl
    cases rounds with
    | zero =>
      unfold readTextContent at hrounds
      simp [hvalid, havailable, hempty, mobileTextRenderLimit, readRounds] at hrounds
    | succ rounds =>
      rw [readTextContent_empty hvalid havailable hempty] at hrounds
      cases hrounds

end Kaleido.Core
