import DContact.Delivery.LineExactKey

/-!
# Every push is authorized as approved

Between the approval of a run and a push under it there are several calls and many commands. What was
approved is pinned in the rows of the run and of its allowlist entry, and every push goes back to
them, as long as the call asks for the recipient of that entry: of the recipient only the fingerprint
is compared.
-/

namespace DContact.Delivery

open Lib

structure AuthorizedBy (host : LineHost) (store : LineStore) (earlier : List LinePerformed) (pid : Nat)
    (occasion : LinePushOccasion) (request : LinePushRequest) (run : DlLineRunAuthorization)
    (entry : DlLineAllowlistEntry) : Prop where
  granted : store.control.findRun occasion.runAuthorizationId = some run
  approved : ApprovedByOthers run
  listed : store.control.findAllowlistEntry run.allowlistEntryId = some entry
  content : ∃ queued content,
    findByDeliveryId .lineMessagingApi store.outbox occasion.deliveryId = some queued ∧
      host.content queued.command.contentRef = some content ∧ request.messages = content.messages ∧
      content.gateDigest = entry.contentDigest
  recipient : ⟨pid, .resolveRecipient entry.recipientProtectedRef,
    .ok (some request.recipient)⟩ ∈ earlier
  usable : ReadUsable earlier pid entry
  token : ⟨pid, .resolveCredential run.credentialRefId run.credentialVersion,
    .ok (some request.accessToken)⟩ ∈ earlier
  reserved : ∃ row ∈ store.control.ledger,
    row.key = (occasion.deliveryId, .providerAttempt, occasion.attemptNo) ∧
      row.gateId = run.gateId ∧ ReservedOpen row earlier

def PushesAuthorized (host : LineHost) (world : LineWorld) : Prop :=
  Follows (fun earlier step => ∀ occasion request, push? step = some (occasion, request) →
    ∃ run entry, AuthorizedBy host world.store earlier step.pid occasion request run entry)
    world.journal

section Runs

variable {host : LineHost} {digest : LineRunProposalDigestInput → String}

/-- What stands behind a push is what was approved, if the call asks for the recipient of its run. -/
theorem Pushed.authorized {store : LineStore} {earlier : List LinePerformed} {pid : Nat}
    {occasion : LinePushOccasion} {request : LinePushRequest}
    (pushed : Pushed host True store earlier pid occasion request) :
    ∃ run entry, AuthorizedBy host store earlier pid occasion request run entry := by
  obtain ⟨queued, content, known, -, -, fixture, messages, sent⟩ := pushed.entry
  obtain ⟨row, mem, key, -, isOpen, run, entry, gate, pushRun⟩ := pushed.unit
  have recipient := pushRun.recipient trivial
  obtain ⟨credential, version⟩ := pushRun.credential
  refine ⟨run, entry, pushRun.found, pushRun.approved, pushRun.listed, ?_, ?_, pushRun.usable, ?_, ?_⟩
  · exact ⟨queued, content, known, fixture, messages, sent.trans pushRun.content.symm⟩
  · rw [recipient]
    exact pushed.recipient
  · rw [credential, version]
    exact pushed.token
  · exact ⟨row, mem, key, gate.symm, isOpen⟩

/-- In every run whose calls ask for the recipient of their run, every push was authorized. -/
theorem line_pushes_are_authorized (host : LineHost) (digest : LineRunProposalDigestInput → String)
    {workers : LineWorkers}
    (reachable : ((lineDeliveries host digest).restrict fun workers step =>
      namesRecipient workers step = true).Reachable workers) :
    PushesAuthorized host workers.world := by
  have governs : (lineDiscipline host digest True).Governs (LineStore.Fresh host)
      fun workers step => namesRecipient workers step = true :=
    lineGoverns fun _ _ _ guarded => guarded
  have inv := (governs.supervised reachable).inv
  exact inv.pushed.mono fun _ _ holds occasion request pushes =>
    (holds occasion request pushes).authorized

end Runs

open Pilot in
theorem line_pushes_are_authorized_for_sample : ∃ workers : LineWorkers,
    (pushesOf workers.world "delivery").length = 1 ∧ PushesAuthorized host workers.world := by
  have ends : System.endsWith
      (System.guardNext namesRecipient (Workers.next (lineMachine host digest)))
      (Workers.idle store) (beforePush 1 "recipient") (.perform 11 (tick "c"))
      (fun _ after => (pushesOf after.world "delivery").length = 1) = true := by
    decide +kernel
  obtain ⟨before, workers, reachable, last, once⟩ := Workers.endsWithGuarded store_fresh ends
  exact ⟨workers, of_decide_eq_true once,
    line_pushes_are_authorized host digest (reachable.step last)⟩

open Pilot in
/-- The run was approved for the recipient of its entry. The call carries the fingerprint of that
recipient and the reference of another one, which is who gets the message. -/
theorem another_recipient_is_pushed :
    ¬ ∀ (host : LineHost) (digest : LineRunProposalDigestInput → String) (workers : LineWorkers),
      (lineDeliveries host digest).Reachable workers → PushesAuthorized host workers.world := by
  intro claimed
  have ends : System.endsWith (Workers.next (lineMachine host digest)) (Workers.idle store)
      (beforePush 1 "other") (.perform 11 (tick "c"))
      (fun _ after => (after.world.journal.any fun step =>
          (push? step).any fun push => push.1.runAuthorizationId = "run") &&
        (after.world.store.control.recipientOf "run" = some "recipient" &&
        after.world.journal.all fun step => step.request ≠ .resolveRecipient "recipient")) = true := by
    decide +kernel
  obtain ⟨before, workers, reachable, last, test⟩ := Workers.endsWith store_fresh ends
  simp only [Bool.and_eq_true, List.any_eq_true, List.all_eq_true, decide_eq_true_eq] at test
  obtain ⟨⟨step, mem, pushes⟩, listed, silent⟩ := test
  obtain ⟨push, pushed, under⟩ := (Option.any_eq_true _ _).mp pushes
  obtain ⟨earlier, later, split⟩ := List.append_of_mem mem
  obtain ⟨run, entry, authorized⟩ :=
    claimed host digest workers (reachable.step last) earlier step later split push.1 push.2 pushed
  have granted := authorized.granted
  rw [of_decide_eq_true under] at granted
  rw [LineControlStore.recipientOf, granted, Option.bind_some, authorized.listed, Option.map_some,
    Option.some.injEq] at listed
  have resolved := authorized.recipient
  rw [listed] at resolved
  exact silent _ (split ▸ List.mem_append_left _ resolved) rfl

end DContact.Delivery
