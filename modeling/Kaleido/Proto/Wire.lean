/-
The JSON encodings of the contract (`kaleido-proto`), for everything a control frame carries: identifiers are objects with
one `value`, records keep the order of their fields, an enumeration is its name in snake case, and one with `tag = "kind"`
is an object whose first field is `kind`.
-/
import Kaleido.Lib.Json
import Kaleido.Proto.Projection

namespace Kaleido.Proto

open Json (tagged)

instance {k : IdKind} : ToJson (Ident k) := ⟨fun i => .obj [("value", toJson i.value)]⟩

instance : ToJson ProviderBindingKind := ⟨fun
  | .session => .str "session"
  | .turn => .str "turn"
  | .item => .str "item"
  | .interactionRequest => .str "interaction_request"
  | .runtimeAcknowledgement => .str "runtime_acknowledgement"⟩

instance : ToJson ProviderBindingHandle := ⟨fun h =>
  .obj [("id", toJson h.id), ("runtime_id", toJson h.runtimeId), ("kind", toJson h.kind)]⟩

instance : ToJson ContentKind := ⟨fun
  | .plainText => .str "plain_text"
  | .markdown => .str "markdown"
  | .toolArguments => .str "tool_arguments"
  | .toolOutput => .str "tool_output"
  | .unifiedDiff => .str "unified_diff"
  | .filePath => .str "file_path"
  | .structuredSummary => .str "structured_summary"⟩

instance : ToJson Sensitivity := ⟨fun
  | .business => .str "business"
  | .sensitive => .str "sensitive"⟩

instance : ToJson ContentAvailability := ⟨fun
  | .inline => .str "inline"
  | .stored => .str "stored"
  | .evicted => .str "evicted"
  | .neverStored => .str "never_stored"⟩

instance : ToJson ContentRef := ⟨fun r =>
  .obj [("content_id", toJson r.contentId), ("kind", toJson r.kind), ("byte_len", toJson r.byteLen),
    ("digest", toJson r.digest), ("preview", toJson r.preview), ("sensitivity", toJson r.sensitivity),
    ("availability", toJson r.availability)]⟩

instance : ToJson ErrorCode := ⟨fun
  | .notFound => tagged "not_found" []
  | .invalidCommand => tagged "invalid_command" []
  | .commandExpired => tagged "command_expired" []
  | .idempotencyConflict => tagged "idempotency_conflict" []
  | .capabilityUnsupported => tagged "capability_unsupported" []
  | .capabilityUnavailable => tagged "capability_unavailable" []
  | .upstreamBlocked blockerId => tagged "upstream_blocked" [("blocker_id", toJson blockerId)]
  | .approvalExpired => tagged "approval_expired" []
  | .approvalAlreadyAnswered => tagged "approval_already_answered" []
  | .joinFailed => tagged "join_failed" []
  | .runtimeUnavailable => tagged "runtime_unavailable" []
  | .runtimeProtocolViolation => tagged "runtime_protocol_violation" []
  | .upstreamRejected => tagged "upstream_rejected" []
  | .upstreamTimeout => tagged "upstream_timeout" []
  | .authRequired => tagged "auth_required" []
  | .cursorGap => tagged "cursor_gap" []
  | .contentEvicted => tagged "content_evicted" []
  | .backpressureDropped => tagged "backpressure_dropped" []
  | .internal => tagged "internal" []⟩

instance : ToJson CanonicalError := ⟨fun e =>
  .obj [("code", toJson e.code), ("retriable", toJson e.retriable), ("detail_ref", toJson e.detailRef),
    ("at_ms", toJson e.atMs)]⟩

/-! ## Capabilities and hosts -/

instance : ToJson Capability := ⟨fun
  | .historyList => .str "history_list"
  | .historyRead => .str "history_read"
  | .historyResume => .str "history_resume"
  | .liveObserve => .str "live_observe"
  | .liveControl => .str "live_control"
  | .liveMultiSubscriber => .str "live_multi_subscriber"
  | .turnPrompt => .str "turn_prompt"
  | .turnSteer => .str "turn_steer"
  | .turnInterrupt => .str "turn_interrupt"
  | .turnRetry => .str "turn_retry"
  | .interactionApproval => .str "interaction_approval"
  | .interactionQuestion => .str "interaction_question"
  | .statePlan => .str "state_plan"
  | .stateTasks => .str "state_tasks"
  | .stateDiff => .str "state_diff"
  | .stateToolLifecycle => .str "state_tool_lifecycle"
  | .queueRead => .str "queue_read"
  | .queueWrite => .str "queue_write"
  | .queueReorder => .str "queue_reorder"
  | .workflowParticipate => .str "workflow_participate"⟩

instance : ToJson CapabilityUnavailableReason := ⟨fun
  | .runtimeDisconnected => .str "runtime_disconnected"
  | .authenticationRequired => .str "authentication_required"
  | .subscriptionLost => .str "subscription_lost"
  | .policyRestricted => .str "policy_restricted"
  | .temporarilyUnavailable => .str "temporarily_unavailable"⟩

instance : ToJson CapabilityState := ⟨fun
  | .supported => tagged "supported" []
  | .unsupported => tagged "unsupported" []
  | .unavailableOnThisConnection reason => tagged "unavailable_on_this_connection" [("reason", toJson reason)]
  | .notVerified => tagged "not_verified" []
  | .upstreamBlocked blockerId => tagged "upstream_blocked" [("blocker_id", toJson blockerId)]⟩

instance : ToJson EvidenceSource := ⟨fun
  | .handshakeDeclared => .str "handshake_declared"
  | .observedInTraffic => .str "observed_in_traffic"
  | .recordedFixture => .str "recorded_fixture"
  | .manualAcceptance => .str "manual_acceptance"
  | .absent => .str "absent"⟩

instance : ToJson CapabilityEvidence := ⟨fun e =>
  .obj [("source", toJson e.source), ("observed_at_ms", toJson e.observedAtMs), ("note_ref", toJson e.noteRef)]⟩

instance : ToJson CapabilityEntry := ⟨fun e =>
  .obj [("capability", toJson e.capability), ("state", toJson e.state), ("evidence", toJson e.evidence)]⟩

instance : ToJson HostReachability := ⟨fun
  | .offline => .str "offline"
  | .lanDirect => .str "lan_direct"
  | .peerToPeer => .str "peer_to_peer"
  | .relayed => .str "relayed"⟩

instance : ToJson ProviderFamily := ⟨fun
  | .codex => .str "codex"
  | .claudeCode => .str "claude_code"
  | .openCode => .str "open_code"
  | .acp => .str "acp"⟩

instance : ToJson ConnectionFaultReason := ⟨fun
  | .processExited exitCode => tagged "process_exited" [("exit_code", toJson exitCode)]
  | .handshakeRejected => tagged "handshake_rejected" []
  | .authRequired => tagged "auth_required" []
  | .timeout => tagged "timeout" []
  | .transportError => tagged "transport_error" []
  | .protocolViolation => tagged "protocol_violation" []⟩

instance : ToJson SessionCounts := ⟨fun c =>
  .obj [("total", toJson c.total), ("running", toJson c.running), ("waiting_human", toJson c.waitingHuman),
    ("failed", toJson c.failed), ("archived", toJson c.archived)]⟩

/-! ## Sessions, turns and items -/

instance : ToJson OwnershipMode := ⟨fun
  | .brokerManaged => .str "broker_managed"
  | .providerManaged => .str "provider_managed"
  | .sharedRuntime => .str "shared_runtime"
  | .externalNative => .str "external_native"⟩

instance : ToJson SessionStatus := ⟨fun
  | .offline => .str "offline"
  | .idle => .str "idle"
  | .running => .str "running"
  | .waitingUser => .str "waiting_user"
  | .waitingApproval => .str "waiting_approval"
  | .queued => .str "queued"
  | .failed => .str "failed"
  | .completed => .str "completed"
  | .cancelled => .str "cancelled"⟩

instance : ToJson LiveUnboundReason := ⟨fun
  | .neverStarted => .str "never_started"
  | .runtimeExited => .str "runtime_exited"
  | .subscriptionLost => .str "subscription_lost"
  | .noPublicAttachPath => .str "no_public_attach_path"⟩

instance : ToJson LiveBinding := ⟨fun
  | .notBound reason => tagged "not_bound" [("reason", toJson reason)]
  | .observing runtimeId sinceAtMs evidence => tagged "observing"
      [("runtime_id", toJson runtimeId), ("since_at_ms", toJson sinceAtMs), ("evidence", toJson evidence)]
  | .controlling runtimeId sinceAtMs evidence => tagged "controlling"
      [("runtime_id", toJson runtimeId), ("since_at_ms", toJson sinceAtMs), ("evidence", toJson evidence)]
  | .blocked blockerId => tagged "blocked" [("blocker_id", toJson blockerId)]⟩

instance : ToJson TurnStatus := ⟨fun
  | .pending => .str "pending"
  | .running => .str "running"
  | .awaitingInteraction => .str "awaiting_interaction"
  | .completed => .str "completed"
  | .failed => .str "failed"
  | .cancelled => .str "cancelled"⟩

instance : ToJson TurnOrigin := ⟨fun
  | .localSurface => tagged "local_surface" []
  | .remoteCommand commandId => tagged "remote_command" [("command_id", toJson commandId)]
  | .workflowStep stepId => tagged "workflow_step" [("step_id", toJson stepId)]⟩

instance : ToJson Turn := ⟨fun t =>
  .obj [("id", toJson t.id), ("session_id", toJson t.sessionId), ("status", toJson t.status), ("origin", toJson t.origin),
    ("started_at_ms", toJson t.startedAtMs), ("completed_at_ms", toJson t.completedAtMs), ("item_ids", toJson t.itemIds),
    ("error", toJson t.error), ("binding_handle", toJson t.bindingHandle)]⟩

instance : ToJson ItemStatus := ⟨fun
  | .pending => .str "pending"
  | .inProgress => .str "in_progress"
  | .completed => .str "completed"
  | .declined => .str "declined"
  | .failed => .str "failed"
  | .cancelled => .str "cancelled"⟩

instance : ToJson MessagePhase := ⟨fun
  | .commentary => .str "commentary"
  | .finalAnswer => .str "final_answer"⟩

instance : ToJson ToolSurface := ⟨fun
  | .shellCommand => tagged "shell_command" []
  | .fileSystem => tagged "file_system" []
  | .mcpServer serverName => tagged "mcp_server" [("server_name", toJson serverName)]
  | .builtin => tagged "builtin" []⟩

instance : ToJson ToolDescriptor := ⟨fun t => .obj [("name", toJson t.name), ("surface", toJson t.surface)]⟩

instance : ToJson FileChangeKind := ⟨fun
  | .add => tagged "add" []
  | .modify => tagged "modify" []
  | .delete => tagged "delete" []
  | .rename fromRef => tagged "rename" [("from_ref", toJson fromRef)]⟩

instance : ToJson FileChange := ⟨fun c =>
  .obj [("path_ref", toJson c.pathRef), ("kind", toJson c.kind), ("diff", toJson c.diff)]⟩

instance : ToJson ChangeSet := ⟨fun c => .obj [("entries", toJson c.entries), ("truncated", toJson c.truncated)]⟩

instance : ToJson PlanEntryState := ⟨fun
  | .pending => .str "pending"
  | .inProgress => .str "in_progress"
  | .completed => .str "completed"
  | .skipped => .str "skipped"⟩

instance : ToJson PlanEntry := ⟨fun e => .obj [("title_ref", toJson e.titleRef), ("state", toJson e.state)]⟩

instance : ToJson AgentTask := ⟨fun t =>
  .obj [("id", toJson t.id), ("title_ref", toJson t.titleRef), ("state", toJson t.state)]⟩

instance : ToJson DiagnosticSeverity := ⟨fun
  | .info => .str "info"
  | .warning => .str "warning"
  | .error => .str "error"⟩

instance : ToJson ItemDiagnosticCode := ⟨fun
  | .runtimeNotice => .str "runtime_notice"
  | .unsupportedContent => .str "unsupported_content"
  | .contentUnavailable => .str "content_unavailable"
  | .validationFailure => .str "validation_failure"⟩

instance : ToJson ItemBody := ⟨fun
  | .userMessage content => tagged "user_message" [("content", toJson content)]
  | .agentMessage content phase => tagged "agent_message" [("content", toJson content), ("phase", toJson phase)]
  | .reasoning content => tagged "reasoning" [("content", toJson content)]
  | .toolCall tool arguments output exitCode => tagged "tool_call"
      [("tool", toJson tool), ("arguments", toJson arguments), ("output", toJson output), ("exit_code", toJson exitCode)]
  | .fileEdit changeSet => tagged "file_edit" [("change_set", toJson changeSet)]
  | .planUpdate entries => tagged "plan_update" [("entries", toJson entries)]
  | .taskUpdate tasks => tagged "task_update" [("tasks", toJson tasks)]
  | .diagnostic severity code detail => tagged "diagnostic"
      [("severity", toJson severity), ("code", toJson code), ("detail", toJson detail)]⟩

instance : ToJson Item := ⟨fun i =>
  .obj [("id", toJson i.id), ("session_id", toJson i.sessionId), ("turn_id", toJson i.turnId),
    ("sequence", toJson i.sequence), ("status", toJson i.status), ("body", toJson i.body),
    ("created_at_ms", toJson i.createdAtMs), ("updated_at_ms", toJson i.updatedAtMs),
    ("binding_handle", toJson i.bindingHandle)]⟩

/-! ## Queue entries and attention -/

instance : ToJson QueueIntent := ⟨fun
  | .newTurn => .str "new_turn"
  | .steerActiveTurn => .str "steer_active_turn"⟩

instance : ToJson SteerAcknowledgement := ⟨fun a =>
  .obj [("source", toJson a.source), ("runtime_id", toJson a.runtimeId), ("session_id", toJson a.sessionId),
    ("turn_id", toJson a.turnId), ("binding_handle", toJson a.bindingHandle), ("observed_at_ms", toJson a.observedAtMs)]⟩

instance : ToJson QueueState := ⟨fun
  | .pending => tagged "pending" []
  | .submitting commandId => tagged "submitting" [("command_id", toJson commandId)]
  | .deliveredAsNewTurn turnId deliveredAtMs => tagged "delivered_as_new_turn"
      [("turn_id", toJson turnId), ("delivered_at_ms", toJson deliveredAtMs)]
  | .deliveredAsSteer runtimeId turnId bindingHandle injectedAtMs ack => tagged "delivered_as_steer"
      [("runtime_id", toJson runtimeId), ("turn_id", toJson turnId), ("binding_handle", toJson bindingHandle),
        ("injected_at_ms", toJson injectedAtMs), ("ack", toJson ack)]
  | .rejected error => tagged "rejected" [("error", toJson error)]
  | .cancelled atMs => tagged "cancelled" [("at_ms", toJson atMs)]⟩

instance : ToJson QueueEntry := ⟨fun e =>
  .obj [("id", toJson e.id), ("session_id", toJson e.sessionId), ("position", toJson e.position),
    ("intent", toJson e.intent), ("body", toJson e.body), ("state", toJson e.state), ("editable", toJson e.editable),
    ("created_at_ms", toJson e.createdAtMs), ("updated_at_ms", toJson e.updatedAtMs)]⟩

instance : ToJson DecisionSemantics := ⟨fun
  | .allow => tagged "allow" []
  | .allowAlways => tagged "allow_always" []
  | .deny => tagged "deny" []
  | .denyAlways => tagged "deny_always" []
  | .cancel => tagged "cancel" []
  | .choose => tagged "choose" []⟩

instance : ToJson DecisionOption := ⟨fun o =>
  .obj [("option_id", toJson o.optionId), ("label", toJson o.label), ("semantics", toJson o.semantics)]⟩

instance : ToJson JoinFailureReason := ⟨fun
  | .itemNotYetSeen => tagged "item_not_yet_seen" []
  | .itemUnknown => tagged "item_unknown" []
  | .ambiguousTarget => tagged "ambiguous_target" []
  | .scopeMismatch => tagged "scope_mismatch" []⟩

instance : ToJson JoinState := ⟨fun
  | .joined itemId => tagged "joined" [("item_id", toJson itemId)]
  | .unjoined reason => tagged "unjoined" [("reason", toJson reason)]⟩

instance : ToJson ApprovalRequest := ⟨fun r =>
  .obj [("request_key", toJson r.requestKey), ("target_item_id", toJson r.targetItemId), ("join", toJson r.join),
    ("options", toJson r.options), ("summary_ref", toJson r.summaryRef), ("detail_ref", toJson r.detailRef),
    ("binding_handle", toJson r.bindingHandle)]⟩

instance : ToJson QuestionPrompt := ⟨fun q =>
  .obj [("question_key", toJson q.questionKey), ("prompt_ref", toJson q.promptRef), ("options", toJson q.options),
    ("multi_select", toJson q.multiSelect), ("free_form_allowed", toJson q.freeFormAllowed)]⟩

instance : ToJson QuestionRequest := ⟨fun r =>
  .obj [("request_key", toJson r.requestKey), ("questions", toJson r.questions),
    ("binding_handle", toJson r.bindingHandle)]⟩

instance : ToJson QuestionAnswer := ⟨fun a =>
  .obj [("question_key", toJson a.questionKey), ("option_ids", toJson a.optionIds),
    ("free_form_ref", toJson a.freeFormRef)]⟩

instance : ToJson WorkflowGateRequest := ⟨fun r =>
  .obj [("request_key", toJson r.requestKey), ("step_id", toJson r.stepId), ("prompt_ref", toJson r.promptRef),
    ("options", toJson r.options), ("free_form_allowed", toJson r.freeFormAllowed)]⟩

instance : ToJson AttentionSubject := ⟨fun
  | .approval request => tagged "approval" [("request", toJson request)]
  | .question request => tagged "question" [("request", toJson request)]
  | .workflowGate request => tagged "workflow_gate" [("request", toJson request)]
  | .connectionFault runtimeId reason => tagged "connection_fault"
      [("runtime_id", toJson runtimeId), ("reason", toJson reason)]⟩

instance : ToJson AttentionAnswerEvidenceSource := ⟨fun
  | .observedInTraffic => tagged "observed_in_traffic" []
  | .recordedFixture => tagged "recorded_fixture" []⟩

instance : ToJson AttentionAnswerEvidence := ⟨fun e =>
  .obj [("observer_host_id", toJson e.observerHostId), ("observed_at_ms", toJson e.observedAtMs),
    ("source", toJson e.source)]⟩

instance : ToJson AttentionAnswerSource := ⟨fun
  | .localCommand commandId => tagged "local_command" [("command_id", toJson commandId)]
  | .observedExternal evidence => tagged "observed_external" [("evidence", toJson evidence)]⟩

instance : ToJson AttentionState := ⟨fun
  | .open_ => tagged "open" []
  | .answered optionId freeFormRef questionAnswers decidedAtMs answerSource => tagged "answered"
      [("option_id", toJson optionId), ("free_form_ref", toJson freeFormRef), ("question_answers", toJson questionAnswers),
        ("decided_at_ms", toJson decidedAtMs), ("answer_source", toJson answerSource)]
  | .expired atMs => tagged "expired" [("at_ms", toJson atMs)]
  | .superseded successor => tagged "superseded" [("by", toJson successor)]
  | .cancelled atMs => tagged "cancelled" [("at_ms", toJson atMs)]⟩

instance : ToJson AttentionItem := ⟨fun i =>
  .obj [("id", toJson i.id), ("host_id", toJson i.hostId), ("project_id", toJson i.projectId),
    ("session_id", toJson i.sessionId), ("turn_id", toJson i.turnId), ("workflow_id", toJson i.workflowId),
    ("subject", toJson i.subject), ("state", toJson i.state), ("created_at_ms", toJson i.createdAtMs),
    ("expires_at_ms", toJson i.expiresAtMs)]⟩

instance : ToJson AttentionResponse := ⟨fun r =>
  .obj [("attention_id", toJson r.attentionId), ("session_id", toJson r.sessionId), ("request_key", toJson r.requestKey),
    ("expected_expires_at_ms", toJson r.expectedExpiresAtMs), ("option_id", toJson r.optionId),
    ("free_form_ref", toJson r.freeFormRef), ("question_answers", toJson r.questionAnswers)]⟩

/-! ## Commands and workflows -/

instance : ToJson RuntimeSelector := ⟨fun s =>
  .obj [("family", toJson s.family), ("required", toJson s.required), ("runtime_id", toJson s.runtimeId)]⟩

instance : ToJson StepAssignment := ⟨fun a =>
  .obj [("selector", toJson a.selector), ("project_binding_id", toJson a.projectBindingId),
    ("worktree_ref", toJson a.worktreeRef)]⟩

instance : ToJson Command := ⟨fun
  | .submitPrompt sessionId body => tagged "submit_prompt" [("session_id", toJson sessionId), ("body", toJson body)]
  | .enqueueInput sessionId body intent => tagged "enqueue_input"
      [("session_id", toJson sessionId), ("body", toJson body), ("intent", toJson intent)]
  | .editQueueEntry entryId body => tagged "edit_queue_entry" [("entry_id", toJson entryId), ("body", toJson body)]
  | .reorderQueue sessionId order => tagged "reorder_queue" [("session_id", toJson sessionId), ("order", toJson order)]
  | .cancelQueueEntry entryId => tagged "cancel_queue_entry" [("entry_id", toJson entryId)]
  | .interruptTurn sessionId turnId => tagged "interrupt_turn"
      [("session_id", toJson sessionId), ("turn_id", toJson turnId)]
  | .retryTurn sessionId turnId => tagged "retry_turn" [("session_id", toJson sessionId), ("turn_id", toJson turnId)]
  | .respondAttention response => tagged "respond_attention" [("response", toJson response)]
  | .openSession projectId runtimeId => tagged "open_session"
      [("project_id", toJson projectId), ("runtime_id", toJson runtimeId)]
  | .resumeSession sessionId => tagged "resume_session" [("session_id", toJson sessionId)]
  | .closeSession sessionId => tagged "close_session" [("session_id", toJson sessionId)]
  | .advanceStep stepId => tagged "advance_step" [("step_id", toJson stepId)]
  | .retryStep stepId => tagged "retry_step" [("step_id", toJson stepId)]
  | .reworkStep stepId reasonRef => tagged "rework_step" [("step_id", toJson stepId), ("reason_ref", toJson reasonRef)]
  | .skipStep stepId reasonRef => tagged "skip_step" [("step_id", toJson stepId), ("reason_ref", toJson reasonRef)]
  | .cancelStep stepId => tagged "cancel_step" [("step_id", toJson stepId)]
  | .reassignStep stepId assignment => tagged "reassign_step"
      [("step_id", toJson stepId), ("assignment", toJson assignment)]
  | .cancelWorkflow workflowId => tagged "cancel_workflow" [("workflow_id", toJson workflowId)]⟩

instance : ToJson RuntimeAcceptanceKind := ⟨fun
  | .promptTurn => .str "prompt_turn"
  | .sessionControl => .str "session_control"⟩

instance : ToJson CommandOutcome := ⟨fun
  | .acceptedLocally noteRef => tagged "accepted_locally" [("note_ref", toJson noteRef)]
  | .acceptedByRuntime sessionId acceptanceKind bindingHandle => tagged "accepted_by_runtime"
      [("session_id", toJson sessionId), ("acceptance_kind", toJson acceptanceKind),
        ("binding_handle", toJson bindingHandle)]
  | .enqueued entryId => tagged "enqueued" [("entry_id", toJson entryId)]
  | .rejected error => tagged "rejected" [("error", toJson error)]
  | .duplicate originalCommandId => tagged "duplicate" [("original_command_id", toJson originalCommandId)]⟩

instance : ToJson CommandAck := ⟨fun a =>
  .obj [("command_id", toJson a.commandId), ("outcome", toJson a.outcome), ("acked_at_ms", toJson a.ackedAtMs)]⟩

instance : ToJson WorkflowState := ⟨fun
  | .draft => .str "draft"
  | .ready => .str "ready"
  | .running => .str "running"
  | .blocked => .str "blocked"
  | .waitingHuman => .str "waiting_human"
  | .review => .str "review"
  | .rework => .str "rework"
  | .completed => .str "completed"
  | .failed => .str "failed"
  | .cancelled => .str "cancelled"⟩

instance : ToJson StepState := ⟨fun
  | .draft => .str "draft"
  | .ready => .str "ready"
  | .running => .str "running"
  | .blocked => .str "blocked"
  | .waitingHuman => .str "waiting_human"
  | .review => .str "review"
  | .rework => .str "rework"
  | .completed => .str "completed"
  | .failed => .str "failed"
  | .skipped => .str "skipped"
  | .cancelled => .str "cancelled"⟩

instance : ToJson ArtifactKind := ⟨fun
  | .plan => tagged "plan" []
  | .diff => tagged "diff" []
  | .commit => tagged "commit" []
  | .reviewNotes => tagged "review_notes" []
  | .testReport => tagged "test_report" []⟩

instance : ToJson Artifact := ⟨fun a =>
  .obj [("id", toJson a.id), ("workflow_id", toJson a.workflowId), ("produced_by", toJson a.producedBy),
    ("kind", toJson a.kind), ("content", toJson a.content), ("created_at_ms", toJson a.createdAtMs)]⟩

instance : ToJson StepBlocker := ⟨fun
  | .dependencyIncomplete stepId => tagged "dependency_incomplete" [("step_id", toJson stepId)]
  | .capabilityNotSupported capability => tagged "capability_not_supported" [("capability", toJson capability)]
  | .humanGateOpen attentionId => tagged "human_gate_open" [("attention_id", toJson attentionId)]
  | .notSchedulable state => tagged "not_schedulable" [("state", toJson state)]⟩

/-! ## Read models -/

instance : ToJson Cursor := ⟨fun c => .obj [("seq", toJson c.seq)]⟩

instance : ToJson ProjectionKey := ⟨fun
  | .projectIndex hostId => tagged "project_index" [("host_id", toJson hostId)]
  | .sessionIndex projectId => tagged "session_index" [("project_id", toJson projectId)]
  | .transcript sessionId => tagged "transcript" [("session_id", toJson sessionId)]
  | .liveActivity sessionId => tagged "live_activity" [("session_id", toJson sessionId)]
  | .inputQueue sessionId => tagged "input_queue" [("session_id", toJson sessionId)]
  | .attentionInbox hostId => tagged "attention_inbox" [("host_id", toJson hostId)]
  | .workflowBoard workflowId => tagged "workflow_board" [("workflow_id", toJson workflowId)]
  | .runtimeCapability hostId runtimeId => tagged "runtime_capability"
      [("host_id", toJson hostId), ("runtime_id", toJson runtimeId)]⟩

instance : ToJson ProjectBindingSummary := ⟨fun b =>
  .obj [("binding_id", toJson b.bindingId), ("runtime_id", toJson b.runtimeId)]⟩

instance : ToJson ProjectSummary := ⟨fun p =>
  .obj [("project_id", toJson p.projectId), ("display_name", toJson p.displayName), ("bindings", toJson p.bindings),
    ("session_counts", toJson p.sessionCounts), ("attention_count", toJson p.attentionCount),
    ("workflow_count", toJson p.workflowCount), ("last_activity_at_ms", toJson p.lastActivityAtMs)]⟩

instance : ToJson ProviderGroup := ⟨fun g =>
  .obj [("family", toJson g.family), ("runtime_ids", toJson g.runtimeIds), ("projects", toJson g.projects)]⟩

instance : ToJson ProjectIndexView := ⟨fun v =>
  .obj [("host_id", toJson v.hostId), ("reachability", toJson v.reachability), ("groups", toJson v.groups)]⟩

instance : ToJson SessionSummary := ⟨fun s =>
  .obj [("session_id", toJson s.sessionId), ("project_binding_id", toJson s.projectBindingId), ("title", toJson s.title),
    ("status", toJson s.status), ("ownership", toJson s.ownership), ("live_binding", toJson s.liveBinding),
    ("queue_depth", toJson s.queueDepth), ("open_attention_count", toJson s.openAttentionCount),
    ("last_activity_at_ms", toJson s.lastActivityAtMs)]⟩

instance : ToJson SessionIndexView := ⟨fun v =>
  .obj [("project_id", toJson v.projectId), ("active", toJson v.active), ("history", toJson v.history),
    ("archived", toJson v.archived)]⟩

instance : ToJson TranscriptTurn := ⟨fun t => .obj [("turn", toJson t.turn), ("items", toJson t.items)]⟩

instance : ToJson TranscriptView := ⟨fun v =>
  .obj [("session_id", toJson v.sessionId), ("turns", toJson v.turns), ("has_earlier", toJson v.hasEarlier)]⟩

instance : ToJson LiveActivityView := ⟨fun v =>
  .obj [("session_id", toJson v.sessionId), ("active_turn_id", toJson v.activeTurnId),
    ("streaming_item_ids", toJson v.streamingItemIds), ("plan", toJson v.plan), ("tasks", toJson v.tasks),
    ("updated_at_ms", toJson v.updatedAtMs)]⟩

instance : ToJson InputQueueView := ⟨fun v =>
  .obj [("session_id", toJson v.sessionId), ("entries", toJson v.entries), ("writable", toJson v.writable),
    ("steer_supported", toJson v.steerSupported)]⟩

instance : ToJson AttentionInboxView := ⟨fun v => .obj [("entries", toJson v.entries)]⟩

instance : ToJson WorkflowBoardStep := ⟨fun s =>
  .obj [("step_id", toJson s.stepId), ("title", toJson s.title), ("state", toJson s.state),
    ("depends_on", toJson s.dependsOn), ("assignment", toJson s.assignment), ("session_id", toJson s.sessionId),
    ("blockers", toJson s.blockers)]⟩

instance : ToJson WorkflowBoardView := ⟨fun v =>
  .obj [("workflow_id", toJson v.workflowId), ("state", toJson v.state), ("steps", toJson v.steps),
    ("artifacts", toJson v.artifacts)]⟩

instance : ToJson RuntimeCapabilityView := ⟨fun v =>
  .obj [("host_id", toJson v.hostId), ("runtime_id", toJson v.runtimeId), ("negotiated_at_ms", toJson v.negotiatedAtMs),
    ("entries", toJson v.entries)]⟩

instance : ToJson ProjectionPayload := ⟨fun
  | .projectIndex view => tagged "project_index" [("view", toJson view)]
  | .sessionIndex view => tagged "session_index" [("view", toJson view)]
  | .transcript view => tagged "transcript" [("view", toJson view)]
  | .liveActivity view => tagged "live_activity" [("view", toJson view)]
  | .inputQueue view => tagged "input_queue" [("view", toJson view)]
  | .attentionInbox view => tagged "attention_inbox" [("view", toJson view)]
  | .workflowBoard view => tagged "workflow_board" [("view", toJson view)]
  | .runtimeCapability view => tagged "runtime_capability" [("view", toJson view)]⟩

instance : ToJson ProjectionEnvelope := ⟨fun e =>
  .obj [("projection_version", toJson e.projectionVersion), ("key", toJson e.key), ("cursor", toJson e.cursor),
    ("payload", toJson e.payload)]⟩

instance : ToJson ProjectionSubscribe := ⟨fun s => .obj [("key", toJson s.key), ("since", toJson s.since)]⟩

instance : ToJson ProjectionSubscribeOutcome := ⟨fun
  | .resumed fromCursor => tagged "resumed" [("from_cursor", toJson fromCursor)]
  | .currentFollows currentCursor => tagged "current_follows" [("current_cursor", toJson currentCursor)]
  | .rejected error => tagged "rejected" [("error", toJson error)]⟩

instance : ToJson ProjectionSubscribeAck := ⟨fun a => .obj [("key", toJson a.key), ("outcome", toJson a.outcome)]⟩

end Kaleido.Proto
