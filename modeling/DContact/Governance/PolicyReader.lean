import DContact.Governance.PolicySafety
import DContact.Governance.ScopeResolution

/-!
# Reading the policy in force

The reader that authorization uses: due schedules first, then the heads that match
the request, then the version that the winning head points at. It fails closed on
everything it cannot account for. A schedule that is due and neither applied nor
cancelled is meant to be one such thing. That holds through the mark on the head;
a scope without a head has only the due time of the job, which a retry puts off.
-/

namespace DContact.Governance

open Lib List

structure PolicyBinding where
  policyId : String
  policyVersionId : String
  policyVersion : Nat
  policyContentDigest : String
  policySchemaVersion : Nat
  ruleRegistryVersion : String
  evaluatorVersion : String
  deriving DecidableEq

inductive PolicyReadResult where
  | resolved (facts : PolicyFacts) (binding : PolicyBinding) (headVersion : Nat) (scopeKey : String)
  | unconfigured
  | failClosed (reason : ReviewReason) (detail : String)
  deriving DecidableEq

def PolicyReadResult.failsClosed : PolicyReadResult → Bool
  | .failClosed _ _ => true
  | _ => false

def PolicyReadResult.servedFrom : PolicyReadResult → Option String
  | .resolved _ _ _ scopeKey => some scopeKey
  | _ => none

variable {scopeKey : String}

theorem servedFrom_some {result : PolicyReadResult} (served : result.servedFrom = some scopeKey) :
    ∃ facts binding headVersion, result = .resolved facts binding headVersion scopeKey := by
  cases result with
  | resolved facts binding headVersion source =>
      cases served
      exact ⟨facts, binding, headVersion, rfl⟩
  | _ => cases served

/-- `CG4_POLICY_HEAD_TTL_SECONDS`. -/
def policyHeadTtlSeconds : Nat := 60

/-- `matches`: a scope that cannot be read counts as matching. -/
def scopeKeyMatches (scopeKey : String) (request : RequestScope) : Bool :=
  match cg4PolicyScopeMatches scopeKey request with
  | .ok found => found
  | .error _ => true

def unavailable (detail : String) : PolicyReadResult :=
  .failClosed .governanceStateUnavailable detail

/-- The first schedule that is due and matches. A parked job counts only while its
scope has no head. -/
def findDue (store : PolicyStore) (request : RequestScope) (now : Instant) : Option JobRow :=
  (store.jobs.filter fun job =>
      (job.isOpen || decide (job.state = .failed)) && decide (job.scheduledFor ≤ now)).find?
    fun job => scopeKeyMatches job.scopeKey request &&
      (decide (job.state ≠ .failed) || decide (job.scopeKey ∉ store.heads.map HeadRow.scopeKey))

def findRevision (store : PolicyStore) (revisionId : String) : Option PolicyRow :=
  store.policies.find? fun row => row.id == revisionId

def HeadRow.facts (head : HeadRow) (row : PolicyRow) : ScopeHeadFacts where
  scopeKey := head.scopeKey
  policyId := head.policyId
  policyVersionId := head.policyRevisionId
  policyVersion := head.policyVersion
  policyContentDigest := row.contentDigest
  schemaVersion := row.schemaVersion
  registryVersion := row.registryVersion
  evaluatorVersion := row.evaluatorVersion
  headVersion := head.headVersion
  headDigest := head.headDigest
  nextActivationAt := head.nextActivationAt

/-- The facts of the matching heads, or the detail of the first that points nowhere. -/
def headFacts (store : PolicyStore) : List HeadRow → Except String (List ScopeHeadFacts)
  | [] => .ok []
  | head :: rest => do
      let row ← orFail (findRevision store head.policyRevisionId)
        ("head ของ " ++ head.scopeKey ++ " ชี้ policy version ที่ไม่มีอยู่")
      let facts ← headFacts store rest
      .ok (head.facts row :: facts)

/-- The text of an error that compiling raises. -/
def LifecycleError.compileDetail : LifecycleError → String
  | .content failure => failure.message
  | _ => "compile policy ไม่ได้"

def readRevision (engine : PolicyEngine) (head : ScopeHeadFacts) (row : PolicyRow) :
    PolicyReadResult :=
  if row.status ≠ .active ∨ row.version ≠ head.policyVersion then
    unavailable ("head ของ " ++ head.scopeKey ++ " ไม่ตรงกับ policy version ที่ ACTIVE")
  else
    match compileRow engine row with
    | .error failure => .failClosed .governancePolicyVersionUnsupported failure.compileDetail
    | .ok compiled =>
        if engine.digest (.content compiled) ≠ row.contentDigest then
          unavailable ("content digest ของ policy " ++ head.policyVersionId ++ " ไม่ตรงกับที่บันทึกไว้")
        else
          .resolved (compiled.facts row.version)
            ⟨head.policyId, head.policyVersionId, head.policyVersion,
              engine.digest (.content compiled), policySchemaVersion, ruleRegistryVersion,
              evaluatorVersion⟩
            head.headVersion head.scopeKey

def loadCg4PolicyFacts (engine : PolicyEngine) (store : PolicyStore) (request : RequestScope)
    (now : Instant) : PolicyReadResult :=
  match findDue store request now with
  | some due =>
      .failClosed .policyActivationPending
        ("scheduled activation ของ " ++ due.scopeKey ++ " ถึงเวลาแล้วแต่ยังไม่ activate")
  | none =>
      let matching := store.heads.filter fun head => scopeKeyMatches head.scopeKey request
      if matching = [] then .unconfigured
      else
        match headFacts store matching with
        | .error detail => unavailable detail
        | .ok facts =>
            match resolveCg4ActivePolicy facts request now policyHeadTtlSeconds with
            | .error failure => unavailable failure.message
            | .ok .unconfigured => .unconfigured
            | .ok (.failClosed reason detail) => .failClosed reason detail
            | .ok (.resolved head _) =>
                match findRevision store head.policyVersionId with
                -- the facts of the head were taken from this row, so it is there
                | none => unavailable head.policyVersionId
                | some row => readRevision engine head row

/-- One scope binds more dimensions than another. -/
def MoreSpecific (scopeKey other : String) : Prop :=
  ∃ own bound, cg4PolicyScopeSpecificity scopeKey = .ok own ∧
    cg4PolicyScopeSpecificity other = .ok bound ∧ bound < own

theorem not_moreSpecific_self (scopeKey : String) : ¬ MoreSpecific scopeKey scopeKey := by
  rintro ⟨own, bound, ownReads, boundReads, less⟩
  rw [ownReads] at boundReads
  cases boundReads
  exact lt_irrefl own less

variable {values : List Nat}

theorem le_foldr_max {value : Nat} (mem : value ∈ values) : value ≤ values.foldr max 0 := by
  induction values with
  | nil => cases mem
  | cons first rest ih =>
      rcases mem_cons.mp mem with rfl | later
      · exact Nat.le_max_left _ _
      · exact (ih later).trans (Nat.le_max_right _ _)

theorem foldr_max_mem (nonempty : values ≠ []) : values.foldr max 0 ∈ values := by
  induction values with
  | nil => exact absurd rfl nonempty
  | cons first rest ih =>
      rw [foldr_cons]
      by_cases last : rest = []
      · simp [last]
      · rcases max_choice first (rest.foldr max 0) with same | same
        · rw [same]
          exact mem_cons_self
        · rw [same]
          exact mem_cons_of_mem _ (ih last)

variable {request : RequestScope}

theorem scopeKeyMatches_ok {passes : Bool} (concerned : scopeKeyMatches scopeKey request = true)
    (checked : cg4PolicyScopeMatches scopeKey request = .ok passes) : passes = true := by
  rw [scopeKeyMatches, checked] at concerned
  exact concerned

variable {activateAt now : Instant} {cacheTtlSeconds : Nat}

theorem resolveHead_due {head : ScopeHeadFacts} (marked : head.nextActivationAt = some activateAt)
    (due : activateAt ≤ now) :
    ∃ reason detail, resolveHead head now cacheTtlSeconds = .failClosed reason detail := by
  unfold resolveHead
  split
  next => exact ⟨_, _, rfl⟩
  simp only [marked, if_pos due]
  exact ⟨_, _, rfl⟩

theorem resolve_due {heads : List ScopeHeadFacts} {marked : ScopeHeadFacts} (mem : marked ∈ heads)
    (mark : marked.nextActivationAt = some activateAt) (due : activateAt ≤ now)
    (concerned : scopeKeyMatches marked.scopeKey request = true) {resolution : PolicyResolution}
    (resolves : resolveCg4ActivePolicy heads request now cacheTtlSeconds = .ok resolution) :
    (∃ reason detail, resolution = .failClosed reason detail) ∨
      ∃ head validUntil, resolution = .resolved head validUntil ∧ head ∈ heads ∧
        cg4PolicyScopeMatches head.scopeKey request = .ok true ∧
        MoreSpecific head.scopeKey marked.scopeKey := by
  by_cases canonical : KeysCanonical heads
  · have reads : ∀ head ∈ heads, cg4PolicyScopeMatches head.scopeKey request =
        .ok (matchesDimensions (boundBy head.scopeKey) request) := fun head mem =>
      cg4PolicyScopeMatches_ok_iff.mpr ⟨_, canonical head mem, rfl⟩
    have present : marked ∈ matchingHeads heads request :=
      mem_filter.mpr ⟨mem, scopeKeyMatches_ok concerned (reads marked mem)⟩
    have listed : specificity (boundBy marked.scopeKey) ∈
        (matchingHeads heads request).map fun head => specificity (boundBy head.scopeKey) :=
      mem_map_of_mem present
    have bounded := le_foldr_max listed
    rw [resolve_canonical canonical] at resolves
    match winners : winningHeads heads request, resolves with
    | [], _ =>
        -- the greatest specificity is that of some matching head
        obtain ⟨candidate, there, attains⟩ :=
          mem_map.mp (foldr_max_mem (ne_nil_of_mem listed))
        have winner : candidate ∈ winningHeads heads request :=
          mem_filter.mpr ⟨there, beq_iff_eq.mpr attains⟩
        rw [winners] at winner
        cases winner
    | [head], resolves =>
        cases resolves
        have won : head ∈ winningHeads heads request := winners ▸ mem_singleton_self head
        obtain ⟨candidate, attains⟩ := mem_filter.mp won
        have attains := beq_iff_eq.mp attains
        by_cases same : specificity (boundBy marked.scopeKey) =
            bestSpecificity (matchingHeads heads request)
        · have alone : marked ∈ winningHeads heads request :=
            mem_filter.mpr ⟨present, beq_iff_eq.mpr same⟩
          rw [winners] at alone
          rw [← mem_singleton.mp alone]
          exact .inl (resolveHead_due mark due)
        · obtain ⟨there, matched⟩ := mem_filter.mp candidate
          have specific : MoreSpecific head.scopeKey marked.scopeKey :=
            ⟨_, _, cg4PolicyScopeSpecificity_ok_iff.mpr ⟨_, canonical head there, attains⟩,
              cg4PolicyScopeSpecificity_ok_iff.mpr ⟨_, canonical marked mem, rfl⟩,
              lt_of_le_of_ne bounded same⟩
          have isMatch := (reads head there).trans (congrArg _ matched)
          unfold resolveHead
          split
          next => exact .inl ⟨_, _, rfl⟩
          split
          next => exact .inr ⟨head, _, rfl, there, isMatch, specific⟩
          split
          next => exact .inl ⟨_, _, rfl⟩
          next => exact .inr ⟨head, _, rfl, there, isMatch, specific⟩
    | first :: second :: rest, resolves =>
        obtain ⟨ambiguous, -, resolves⟩ := bind_ok resolves
        cases resolves
        exact .inl ⟨_, _, rfl⟩
  · rw [resolve_not_canonical canonical] at resolves
    cases resolves

variable {store : PolicyStore}

theorem headFacts_mem {heads : List HeadRow} {facts : List ScopeHeadFacts}
    (ok : headFacts store heads = .ok facts) :
    (∀ head ∈ heads, ∃ row, head.facts row ∈ facts) ∧
      ∀ fact ∈ facts, ∃ head ∈ heads, ∃ row, fact = head.facts row := by
  induction heads generalizing facts with
  | nil =>
      cases ok
      simp
  | cons first rest ih =>
      obtain ⟨row, -, ok⟩ := bind_ok ok
      obtain ⟨tail, tailOk, ok⟩ := bind_ok ok
      cases ok
      obtain ⟨toFacts, fromFacts⟩ := ih tailOk
      constructor
      · intro head mem
        rcases mem_cons.mp mem with rfl | later
        · exact ⟨row, mem_cons_self⟩
        · obtain ⟨other, present⟩ := toFacts head later
          exact ⟨other, mem_cons_of_mem _ present⟩
      · intro fact mem
        rcases mem_cons.mp mem with rfl | later
        · exact ⟨first, mem_cons_self, row, rfl⟩
        · obtain ⟨head, present, other, same⟩ := fromFacts fact later
          exact ⟨head, mem_cons_of_mem _ present, other, same⟩

theorem readRevision_cases (engine : PolicyEngine) (head : ScopeHeadFacts) (row : PolicyRow) :
    (readRevision engine head row).failsClosed = true ∨
      ∃ facts binding headVersion,
        readRevision engine head row = .resolved facts binding headVersion head.scopeKey := by
  unfold readRevision
  split
  next => exact .inl rfl
  split
  next => exact .inl rfl
  split
  next => exact .inl rfl
  next => exact .inr ⟨_, _, _, rfl⟩

/-- What a read may return while a schedule of the scope is due. -/
def Withheld (store : PolicyStore) (request : RequestScope) (scopeKey : String)
    (result : PolicyReadResult) : Prop :=
  result.failsClosed = true ∨
    ∃ facts binding headVersion, ∃ head ∈ store.heads,
      result = .resolved facts binding headVersion head.scopeKey ∧
        cg4PolicyScopeMatches head.scopeKey request = .ok true ∧
        MoreSpecific head.scopeKey scopeKey

variable {engine : PolicyEngine} {head : HeadRow}

theorem loadCg4PolicyFacts_marked (mem : head ∈ store.heads)
    (mark : head.nextActivationAt = some activateAt) (due : activateAt ≤ now)
    (concerned : scopeKeyMatches head.scopeKey request = true) :
    Withheld store request head.scopeKey (loadCg4PolicyFacts engine store request now) := by
  unfold loadCg4PolicyFacts
  split
  next => exact .inl rfl
  have listed : head ∈ store.heads.filter fun head => scopeKeyMatches head.scopeKey request :=
    mem_filter.mpr ⟨mem, concerned⟩
  dsimp only
  rw [if_neg (ne_nil_of_mem listed)]
  split
  next => exact .inl rfl
  next facts isFacts =>
    obtain ⟨toFacts, fromFacts⟩ := headFacts_mem isFacts
    obtain ⟨row, present⟩ := toFacts head listed
    split
    next => exact .inl rfl
    next resolves =>
      rcases resolve_due present mark due concerned resolves with
        ⟨_, _, impossible⟩ | ⟨_, _, impossible, -⟩ <;> cases impossible
    next => exact .inl rfl
    next winner _ resolves =>
      rcases resolve_due present mark due concerned resolves with
        ⟨_, _, impossible⟩ | ⟨_, _, same, there, matched, specific⟩
      · cases impossible
      cases same
      split
      next => exact .inl rfl
      next row _ =>
        rcases readRevision_cases engine winner row with closed | ⟨facts, binding, version, reads⟩
        · exact .inl closed
        · obtain ⟨other, among, otherRow, rfl⟩ := fromFacts winner there
          exact .inr ⟨facts, binding, version, other, (mem_filter.mp among).1, reads, matched,
            specific⟩

theorem loadCg4PolicyFacts_due {job : JobRow} (queued : job ∈ store.jobs)
    (isOpen : job.isOpen = true) (due : job.scheduledFor ≤ now)
    (concerned : scopeKeyMatches job.scopeKey request = true) :
    (loadCg4PolicyFacts engine store request now).failsClosed = true := by
  cases found : findDue store request now with
  | some first => simp [loadCg4PolicyFacts, found, PolicyReadResult.failsClosed]
  | none =>
      have listed : job ∈ store.jobs.filter fun job =>
          (job.isOpen || decide (job.state = .failed)) && decide (job.scheduledFor ≤ now) := by
        simp [queued, isOpen, due]
      have absent := find?_eq_none.mp found job listed
      have live : job.state ≠ .failed := by
        intro parked
        simp [JobRow.isOpen, parked] at isOpen
      simp [concerned, live] at absent

/-- A written head adds its scope and takes none away. -/
theorem HeadWritten.scopes {before after : List HeadRow} {expectedVersion : Nat}
    (written : HeadWritten before expectedVersion head after)
    (distinct : (before.map HeadRow.scopeKey).Nodup)
    (known : scopeKey = head.scopeKey ∨ scopeKey ∈ before.map HeadRow.scopeKey) :
    scopeKey ∈ after.map HeadRow.scopeKey := by
  by_cases same : scopeKey = head.scopeKey
  · rw [same]
    exact mem_map_of_mem ((written.mem distinct).mpr (.inl rfl))
  · obtain ⟨other, present, rfl⟩ := mem_map.mp (known.resolve_left same)
    exact mem_map_of_mem ((written.mem distinct).mpr (.inr ⟨present, same⟩))

def Headed (store : PolicyStore) : Prop :=
  ∀ job ∈ store.jobs, job.scopeKey ∈ store.heads.map HeadRow.scopeKey

variable {before after : PolicyStore}

theorem Headed.activated {move : HeadMove} (headed : Headed before)
    (keyed : (before.heads.map HeadRow.scopeKey).Nodup)
    (written : Activated engine before move after) : Headed after := by
  intro job mem
  rw [written.jobs] at mem
  obtain ⟨old, queued, rfl⟩ := mem_map.mp mem
  apply written.heads.scopes keyed
  right
  split <;> exact headed old queued

theorem Headed.change {published due : Option PolicyRow} (headed : Headed before)
    (keyed : Keyed before) (change : Change engine before published due after) : Headed after := by
  cases change with
  | side _ heads jobs => rwa [Headed, heads, jobs]
  | worked _ heads rewrite jobs keeps =>
      rw [Headed, heads, jobs]
      intro job mem
      obtain ⟨old, queued, rfl⟩ := mem_map.mp mem
      rw [(keeps old queued).scopeKey]
      exact headed old queued
  | drafted _ _ heads jobs | edited _ _ heads jobs => rwa [Headed, heads, jobs]
  | scheduled move jobId _ _ _ _ written =>
      obtain ⟨current, -, marked⟩ := written.marked
      intro job mem
      rw [written.jobs] at mem
      apply marked.scopes keyed.heads
      rcases mem_snoc.mp mem with queued | rfl
      · exact .inr (headed job queued)
      · exact .inl rfl
  | published move _ _ _ written => exact headed.activated keyed.heads written
  | activated move job leaseOwner _ _ _ written =>
      have completed : Headed { before with
          jobs := completeJob job leaseOwner move.occurredAt before.jobs } := by
        intro other mem
        obtain ⟨old, queued, rfl⟩ := Table.mem_update.mp mem
        have there := headed old queued
        split
        next => split <;> exact there
        next => exact there
      exact completed.activated keyed.heads written

theorem headed_of_reachable {options : StudioOptions} {studio : PolicyStudio}
    (reachable : (studioSystem options).Reachable studio) : Headed studio.store := by
  let Inv (studio : PolicyStudio) : Prop := Keyed studio.store ∧ Headed studio.store
  suffices holds : Inv studio from holds.2
  refine reachable.invariant ?_ ?_
  · rintro _ rfl
    exact ⟨(sound_empty options.engine).keyed, by simp [Headed, PolicyStudio.empty, PolicyStore.empty]⟩
  · intro source step target inv taken
    obtain ⟨keyed, headed⟩ := inv
    have change := next_change keyed taken
    exact ⟨Keyed.change keyed change, headed.change keyed change⟩

/-- A schedule that has been neither applied nor cancelled. The next publish on a scope
releases a parked job on purpose: it takes the mark off the head. -/
structure Pending (store : PolicyStore) (job : JobRow) (activateAt : Instant) : Prop where
  queued : job ∈ store.jobs
  time : ∃ row ∈ store.policies, row.policyId = job.policyId ∧ row.version = job.policyVersion ∧
    row.activateAt = some activateAt
  stands : job.isOpen = true ∨ job.state = .failed ∧ ∀ head ∈ store.heads,
    head.scopeKey = job.scopeKey → head.nextActivationAt = some activateAt

/-- From its time on a schedule withholds every read on its scope: none is unconfigured
and none is served from the head that is to be replaced. Reads fail closed, but for
those that the head of a more specific scope serves after a retry. -/
theorem due_schedule_withholds {options : StudioOptions} {studio : PolicyStudio} {job : JobRow}
    {activateAt now : Instant} {request : RequestScope}
    (reachable : ((studioSystem options).restrict fun studio step =>
      !studio.overtakes step).Reachable studio)
    (pending : Pending studio.store job activateAt) (due : activateAt ≤ now)
    (concerned : scopeKeyMatches job.scopeKey request = true) :
    let result := loadCg4PolicyFacts options.engine studio.store request now
    result ≠ .unconfigured ∧
      (∀ facts binding headVersion, result ≠ .resolved facts binding headVersion job.scopeKey) ∧
      ((job.isOpen = true ∧ job.scheduledFor ≤ now) ∨
        (∀ head ∈ studio.store.heads, cg4PolicyScopeMatches head.scopeKey request = .ok true →
          ¬ MoreSpecific head.scopeKey job.scopeKey) → result.failsClosed = true) := by
  have sound := sound_of_reachable reachable
  have marked : ∀ head ∈ studio.store.heads, head.scopeKey = job.scopeKey →
      head.nextActivationAt = some activateAt := by
    rcases pending.stands with isOpen | ⟨-, stands⟩
    · obtain ⟨row, present, series, version, time⟩ := pending.time
      obtain ⟨waiting, there, awaits⟩ := sound.waiting job pending.queued isOpen
      have this : waiting = row := Table.eq_of_key_eq sound.keyed.versions there present
        (Prod.ext (awaits.policyId.trans series.symm) (awaits.version.trans version.symm))
      intro head mem scope
      have found := headOf_member sound.keyed.heads mem
      rw [← time, ← this]
      exact awaits.mark head (by rw [awaits.scopeKey, ← scope]; exact found)
    · exact stands
  have withheld : Withheld studio.store request job.scopeKey
      (loadCg4PolicyFacts options.engine studio.store request now) := by
    have headed := headed_of_reachable reachable.of_restrict job pending.queued
    obtain ⟨head, mem, scope⟩ := mem_map.mp headed
    rw [← scope]
    exact loadCg4PolicyFacts_marked mem (marked head mem scope) due (scope ▸ concerned)
  intro result
  rcases withheld with closed | ⟨facts, binding, version, head, mem, reads, matched, specific⟩
  · have isClosed : result.failsClosed = true := closed
    refine ⟨?_, ?_, fun _ => isClosed⟩
    · intro unconfigured
      simp [unconfigured, PolicyReadResult.failsClosed] at isClosed
    · intro facts binding version served
      simp [served, PolicyReadResult.failsClosed] at isClosed
  · have isRead : result = .resolved facts binding version head.scopeKey := reads
    rw [isRead]
    refine ⟨by simp, ?_, ?_⟩
    · intro _ _ _ same
      have scope : head.scopeKey = job.scopeKey := by injection same
      rw [scope] at specific
      exact not_moreSpecific_self _ specific
    · rintro (⟨isOpen, soon⟩ | none)
      · rw [← isRead]
        exact loadCg4PolicyFacts_due pending.queued isOpen soon concerned
      · exact absurd specific (none head mem matched)

def voiceRequest : RequestScope := ⟨some "VOICE", none, none, none⟩

def frozenClaim (jobId : String) : List StudioStep := [.freeze true, .claim jobId "worker" 100]

def frozenAttempt (jobId : String) : StudioStep := .attempt jobId "worker" 0 100 ⟨"", "", ""⟩

/-- The attempt on the late version has put its job off until 2100; at 101 the mark on
the loose head still withholds the read. -/
theorem retried_schedule_withholds :
    ∃ studio job, ((studioSystem sampleOptions).restrict fun studio step =>
        !studio.overtakes step).Reachable studio ∧
      Pending studio.store job 100 ∧ job.scheduledFor = 2100 ∧
      (loadCg4PolicyFacts sampleOptions.engine studio.store voiceRequest 101).failsClosed = true := by
  have ends : System.endsWith (System.guardNext (fun studio step => !studio.overtakes step)
      (PolicyStudio.next sampleOptions)) .empty (lateScheduled ++ frozenClaim "late-job")
      (frozenAttempt "late-job") (fun _ after => decide (∃ job ∈ after.store.jobs,
        job.isOpen = true ∧ job.scheduledFor = 2100 ∧ job.scopeKey = sampleScope ∧
        (∃ row ∈ after.store.policies, row.policyId = job.policyId ∧
          row.version = job.policyVersion ∧ row.activateAt = some 100) ∧
        ∀ head ∈ after.store.heads, head.scopeKey = sampleScope)) = true := by
    decide +kernel
  obtain ⟨before, after, reachable, taken, found⟩ :=
    System.Reachable.endsWithGuarded (emptyStudio_fresh sampleOptions) ends
  obtain ⟨job, queued, isOpen, retried, scope, time, heads⟩ := of_decide_eq_true found
  have pending : Pending after.store job 100 := ⟨queued, time, .inl isOpen⟩
  have concerned : scopeKeyMatches job.scopeKey voiceRequest = true := by
    rw [scope]
    decide
  refine ⟨after, job, reachable.step taken, pending, retried, ?_⟩
  apply (due_schedule_withholds (reachable.step taken) pending (by decide) concerned).2.2
  right
  intro head mem _
  rw [heads head mem, scope]
  exact not_moreSpecific_self sampleScope

/-- The strict version has overtaken the late one, whose job survives, and has taken the
mark off the head: once an attempt has put the job off, the scope is served from the
head that the activation is to replace. -/
theorem retried_schedule_served :
    ∃ studio job, (studioSystem sampleOptions).Reachable studio ∧ Pending studio.store job 100 ∧
      cg4PolicyScopeMatches job.scopeKey voiceRequest = .ok true ∧
      ∃ facts binding headVersion, loadCg4PolicyFacts sampleOptions.engine studio.store voiceRequest
        101 = .resolved facts binding headVersion job.scopeKey := by
  have ends : System.endsWith (PolicyStudio.next sampleOptions) .empty
      (lateOvertaken ++ frozenClaim "late-job") (frozenAttempt "late-job")
      (fun _ after => decide (∃ job ∈ after.store.jobs, job.isOpen = true ∧
        job.scopeKey = sampleScope ∧
        (∃ row ∈ after.store.policies, row.policyId = job.policyId ∧
          row.version = job.policyVersion ∧ row.activateAt = some 100) ∧
        (loadCg4PolicyFacts sampleOptions.engine after.store voiceRequest 101).servedFrom =
          some sampleScope)) = true := by
    decide +kernel
  obtain ⟨before, after, reachable, taken, found⟩ :=
    System.Reachable.endsWith (emptyStudio_fresh sampleOptions) ends
  obtain ⟨job, queued, isOpen, scope, time, reads⟩ := of_decide_eq_true found
  refine ⟨after, job, reachable.step taken, ⟨queued, time, .inl isOpen⟩, ?_, ?_⟩
  · rw [scope]
    rfl
  · rw [scope]
    exact servedFrom_some reads

end DContact.Governance
