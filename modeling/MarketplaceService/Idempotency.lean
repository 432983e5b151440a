import MarketplaceService.Executor

/-!
The executor runs the effects of an actor's command id at most once. Two facts
carry it: the advisory lock keeps the executions of one key apart from the
lookup to the commit, so an execution past the lookup knows that its key has no
result; and a stored result, opened or redacted by a command of the same kind,
is the body the first execution answered with.
-/

namespace MarketplaceService

section Executor

variable {Domain Payload : Type} {deployment : Deployment Domain Payload}
  {server after : Server Domain Payload}

/-! What a step can do. -/

/-- The phases an execution enters without writing a row. -/
inductive Advances (deployment : Deployment Domain Payload) (server : Server Domain Payload)
    (id : ExecutionId) (execution : Execution Domain Payload) : Phase Domain → Prop
  | early {phase : Phase Domain} (unlocked : execution.phase.holdsLock = false)
      (running : ∀ response, execution.phase ≠ .answered response)
      (plain : phase = .prefetching ∨ ∃ record, phase = .waiting record) :
      Advances deployment server id execution phase
  | replayed {stored : StoredResult} (found : server.results.find? execution.key = some stored)
      (running : ∀ response, execution.phase ≠ .answered response) :
      Advances deployment server id execution
        (.answered (deployment.storedResultResponse execution.actor execution.command stored))
  | locked {record : RegisterRecordPrefetch} (waits : execution.phase = .waiting record)
      (free : server.lockFree id execution.key = true) :
      Advances deployment server id execution (.locked record)
  | cleared {record : RegisterRecordPrefetch} (holds : execution.phase = .locked record)
      (unstored : server.results.find? execution.key = none) :
      Advances deployment server id execution (.cleared record)
  | handled {record : RegisterRecordPrefetch} {nonce : ℕ} {writes : Domain → Domain}
      {success : HandlerSuccess} {stored : Body} (holds : execution.phase = .cleared record)
      (durable : deployment.storedBody execution.actor execution.command nonce
        (successBody execution.command success) = some stored) :
      Advances deployment server id execution
        (.handled writes (successBody execution.command success) stored)
  | refused {record : RegisterRecordPrefetch} {kind : RefusalKind} {message : String}
      (holds : execution.phase = .cleared record) :
      Advances deployment server id execution (.answered (.refused kind message))
  | failed (running : ∀ response, execution.phase ≠ .answered response) :
      Advances deployment server id execution (.answered .failed)

theorem advance_cases {id : ExecutionId} {execution : Execution Domain Payload}
    {action : ExecutorAction Domain Payload} {phase : Phase Domain}
    (advanced : deployment.advance server id execution action = some phase) :
    Advances deployment server id execution phase := by
  cases action with
  | request _ =>
      simp only [Deployment.advance] at advanced
      split at advanced
      · rename_i arrived
        cases advanced
        refine .early (by rw [arrived]; rfl) (by simp [arrived]) ?_
        split
        · exact .inl rfl
        · exact .inr ⟨_, rfl⟩
      · cases advanced
  | prefetch _ record =>
      simp only [Deployment.advance] at advanced
      split at advanced
      · rename_i prefetching
        split at advanced
        · rename_i stored found
          cases advanced
          exact .replayed found (by simp [prefetching])
        · cases advanced
          exact .early (by rw [prefetching]; rfl) (by simp [prefetching]) (.inr ⟨_, rfl⟩)
      · cases advanced
  | lock _ =>
      simp only [Deployment.advance] at advanced
      split at advanced
      · rename_i record waits
        obtain ⟨free, same⟩ := Option.ite_none_right_eq_some.mp advanced
        cases same
        exact .locked waits free
      · cases advanced
  | lookup _ =>
      simp only [Deployment.advance] at advanced
      split at advanced
      · rename_i record holds
        split at advanced
        · rename_i stored found
          cases advanced
          exact .replayed found (by simp [holds])
        · rename_i unstored
          cases advanced
          exact .cleared holds unstored
      · cases advanced
  | dispatch _ view now nonce =>
      simp only [Deployment.advance] at advanced
      split at advanced
      · rename_i record holds
        split at advanced
        · split at advanced
          · rename_i durable
            cases advanced
            exact .handled holds durable
          · cases advanced
            exact .refused holds
        · cases advanced
          exact .refused holds
        · cases advanced
          exact .refused holds
        · cases advanced
          exact .failed (by simp [holds])
      · cases advanced
  | fail _ =>
      simp only [Deployment.advance] at advanced
      split at advanced
      · cases advanced
      · rename_i running
        cases advanced
        exact .failed running
  | submit _ _ _ => cases advanced
  | commit _ _ => cases advanced
  | work _ => cases advanced

/-- The step of another transaction, a new execution, an execution that moves
on, one that fails at the primary key, or a commit. -/
inductive Stepped (deployment : Deployment Domain Payload) (server : Server Domain Payload)
    (action : ExecutorAction Domain Payload) : Server Domain Payload → Prop
  | worked {change : Domain → Domain} (named : action.execution = none) :
      Stepped deployment server action { server with domain := change server.domain }
  | submitted {id : ExecutionId} {actor : Pubky} {command : Command Payload}
      (named : action.execution = some id) (fresh : server.executions.find? id = none) :
      Stepped deployment server action { server with
        executions := server.executions.set id
          { actor := actor, command := command, phase := .arrived } }
  | moved {id : ExecutionId} {execution : Execution Domain Payload} {phase : Phase Domain}
      (named : action.execution = some id) (found : server.executions.find? id = some execution)
      (advances : Advances deployment server id execution phase) :
      Stepped deployment server action (server.enter id execution phase)
  | committed {id : ExecutionId} {execution : Execution Domain Payload}
      {writes : Domain → Domain} {body stored : Body} {delivered : Bool}
      (named : action.execution = some id) (found : server.executions.find? id = some execution)
      (handled : execution.phase = .handled writes body stored)
      (unstored : server.results.find? execution.key = none) :
      Stepped deployment server action
        { domain := writes server.domain
          results := server.results.set execution.key
            { requestHash := deployment.requestHash execution.command, result := stored }
          executions := server.executions.set id { execution with
            phase := .answered (if delivered then .accepted body else .failed) }
          commits := { execution := id, key := execution.key, body := body } :: server.commits }

theorem step_cases {action : ExecutorAction Domain Payload}
    (stepped : deployment.step server action = some after) :
    Stepped deployment server action after := by
  have moves {id : ExecutionId} (named : action.execution = some id)
      (ran : ((server.executions.find? id).bind fun execution =>
        (deployment.advance server id execution action).map (server.enter id execution)) =
          some after) : Stepped deployment server action after := by
    obtain ⟨execution, found, ran⟩ := Option.bind_eq_some_iff.mp ran
    obtain ⟨phase, advanced, rfl⟩ := Option.map_eq_some_iff.mp ran
    exact .moved named found (advance_cases advanced)
  cases action with
  | submit id actor command =>
      obtain ⟨fresh, same⟩ := Option.ite_none_left_eq_some.mp stepped
      cases same
      exact .submitted rfl (by simpa using fresh)
  | commit id delivered =>
      obtain ⟨execution, found, ran⟩ := Option.bind_eq_some_iff.mp stepped
      unfold Deployment.commit at ran
      split at ran
      · rename_i writes body stored handled
        split at ran
        · cases ran
          exact .moved rfl found (.failed (by simp [handled]))
        · rename_i unstored
          cases ran
          exact .committed rfl found handled (by simpa using unstored)
      · cases ran
  | work change =>
      cases stepped
      exact .worked rfl
  | request id => exact moves rfl stepped
  | prefetch id record => exact moves rfl stepped
  | lock id => exact moves rfl stepped
  | lookup id => exact moves rfl stepped
  | dispatch id view now nonce => exact moves rfl stepped
  | fail id => exact moves rfl stepped

/-! What is stored opens to what was answered. -/

/-- The stored body is the durable form of the body for any command of the
kind, and a replay by such a command, where it is accepted, answers with it. -/
structure Durable (deployment : Deployment Domain Payload) (actor : Pubky) (kind : CommandKind)
    (body stored : Body) : Prop where
  form : ∃ nonce, ∀ command : Command Payload, command.kind = kind →
    deployment.storedBody actor command nonce body = some stored
  opens : ∀ command : Command Payload, command.kind = kind → ∀ answer,
    deployment.replay actor command stored = .accepted answer → answer = body

/-- A fresh checkout shows no address, so the redaction leaves it alone. -/
theorem redactCommandResult_fresh {command : Command Payload} {success : HandlerSuccess}
    {answer : Body}
    (redacted : redactCommandResult (successBody command success) = some answer) :
    answer = successBody command success := by
  unfold redactCommandResult at redacted
  split at redacted
  · rename_i orders payments shown
    cases redacted
    cases value : success.result with
    | checkout rows listed =>
        simp only [successBody, value, HandlerValue.body, ResultBody.checkout.injEq] at shown
        obtain ⟨rfl, rfl⟩ := shown
        simp [successBody, value, HandlerValue.body, OrderRow.project, Function.comp_def]
    | preparedLocks clientReference rest =>
        simp only [successBody, value, HandlerValue.body] at shown
        cases shown
    | other result =>
        simp only [successBody, value, HandlerValue.body] at shown
        cases shown
  · cases redacted

theorem unseal_seal {keys : LocksKeys} {nonce paymentId : ℕ} {actor : Pubky} {body stored : Body}
    (protect : sealPrepareLocksResult keys nonce paymentId actor body = some stored) :
    unsealPrepareLocksResult keys paymentId actor stored = some body := by
  unfold sealPrepareLocksResult at protect
  split at protect
  · rename_i clientReference rest shown
    cases protect
    simp only [unsealPrepareLocksResult, keys.opens, Option.map_some, ← shown]
  · cases protect

theorem storedBody_durable {actor : Pubky} {command : Command Payload} {nonce : ℕ}
    {success : HandlerSuccess} {stored : Body}
    (durable : deployment.storedBody actor command nonce (successBody command success) =
      some stored) :
    Durable deployment actor command.kind (successBody command success) stored := by
  refine ⟨⟨nonce, fun other same => ?_⟩, fun other same answer replayed => ?_⟩
  · rw [← durable, Deployment.storedBody, Deployment.storedBody, same]
  unfold Deployment.storedBody at durable
  unfold Deployment.replay at replayed
  rw [same] at replayed
  cases kind : command.kind with
  | registerListing =>
      simp only [kind] at durable replayed
      cases durable
      cases replayed
      rfl
  | other name =>
      simp only [kind] at durable replayed
      cases durable
      cases replayed
      rfl
  | createCheckout =>
      simp only [kind] at durable replayed
      cases durable
      split at replayed
      · rename_i body redacted
        cases replayed
        exact redactCommandResult_fresh redacted
      · cases replayed
  | prepareLocks paymentId =>
      simp only [kind] at durable replayed
      obtain ⟨keys, present, protect⟩ := Option.bind_eq_some_iff.mp durable
      rw [present, Option.bind_some, unseal_seal protect] at replayed
      cases replayed
      rfl

/-! The invariant. -/

def Phase.pastLookup : Phase Domain → Bool
  | .cleared _ | .handled .. => true
  | _ => false

theorem Phase.pastLookup_holds {phase : Phase Domain} (past : phase.pastLookup = true) :
    phase.holdsLock = true := by
  cases phase <;> first | rfl | cases past

/-- The advisory lock, and what those who hold it know. -/
structure Serialized (deployment : Deployment Domain Payload) (server : Server Domain Payload) :
    Prop where
  exclusive : ∀ id other execution rival, server.executions.find? id = some execution →
    server.executions.find? other = some rival → execution.key = rival.key →
    execution.phase.holdsLock = true → rival.phase.holdsLock = true → id = other
  unstored : ∀ id execution, server.executions.find? id = some execution →
    execution.phase.pastLookup = true → server.results.find? execution.key = none
  durable : ∀ id execution writes body stored, server.executions.find? id = some execution →
    execution.phase = .handled writes body stored →
    Durable deployment execution.actor execution.command.kind body stored

theorem lockFree_rival {id other : ExecutionId} {key : Pubky × CommandId}
    {rival : Execution Domain Payload} (free : server.lockFree id key = true)
    (found : server.executions.find? other = some rival) (same : rival.key = key)
    (holds : rival.phase.holdsLock = true) : other = id := by
  have checked := List.all_eq_true.mp free (other, rival) (Keyed.lookup_mem _ _ _ found)
  simpa [same, holds] using checked

theorem Serialized.enter {id : ExecutionId} {execution : Execution Domain Payload}
    {phase : Phase Domain} (serialized : Serialized deployment server)
    (found : server.executions.find? id = some execution)
    (alone : phase.holdsLock = true → execution.phase.holdsLock = true ∨
      server.lockFree id execution.key = true)
    (unstored : phase.pastLookup = true → server.results.find? execution.key = none)
    (durable : ∀ writes body stored, phase = .handled writes body stored →
      Durable deployment execution.actor execution.command.kind body stored) :
    Serialized deployment (server.enter id execution phase) := by
  have entered (other : ExecutionId) : (server.enter id execution phase).executions.find? other =
      if other = id then some { execution with phase := phase }
      else server.executions.find? other := by
    rw [Server.enter, Keyed.Table.find?_set]
  -- the other executions of the key do not hold the lock when this one does
  have apart {other : ExecutionId} {rival : Execution Domain Payload} (differs : other ≠ id)
      (present : server.executions.find? other = some rival) (same : rival.key = execution.key)
      (holds : rival.phase.holdsLock = true) (enters : phase.holdsLock = true) : False := by
    rcases alone enters with before | free
    · exact differs (serialized.exclusive _ _ _ _ present found same holds before)
    · exact differs (lockFree_rival free present same holds)
  constructor
  · intro left right one two first second same holds also
    rw [entered] at first second
    by_cases here : left = id
    · by_cases there : right = id
      · exact here.trans there.symm
      · rw [if_pos here] at first
        rw [if_neg there] at second
        cases first
        exact (apart there second same.symm also holds).elim
    · rw [if_neg here] at first
      by_cases there : right = id
      · rw [if_pos there] at second
        cases second
        exact (apart here first same holds also).elim
      · rw [if_neg there] at second
        exact serialized.exclusive _ _ _ _ first second same holds also
  · intro other row present past
    rw [entered] at present
    by_cases here : other = id
    · rw [if_pos here] at present
      cases present
      exact unstored past
    · rw [if_neg here] at present
      exact serialized.unstored _ _ present past
  · intro other row writes body stored present phased
    rw [entered] at present
    by_cases here : other = id
    · rw [if_pos here] at present
      cases present
      exact durable _ _ _ phased
    · rw [if_neg here] at present
      exact serialized.durable _ _ _ _ _ present phased

theorem Serialized.moved {id : ExecutionId} {execution : Execution Domain Payload}
    {phase : Phase Domain} (serialized : Serialized deployment server)
    (found : server.executions.find? id = some execution)
    (advances : Advances deployment server id execution phase) :
    Serialized deployment (server.enter id execution phase) := by
  cases advances with
  | early unlocked running plain =>
      rcases plain with rfl | ⟨record, rfl⟩ <;>
        exact serialized.enter found nofun nofun nofun
  | replayed stored running => exact serialized.enter found nofun nofun nofun
  | locked waits free => exact serialized.enter found (fun _ => .inr free) nofun nofun
  | cleared holds unstored =>
      refine serialized.enter found (fun _ => .inl ?_) (fun _ => unstored) nofun
      rw [holds]
      rfl
  | handled holds durable =>
      refine serialized.enter found (fun _ => .inl ?_) (fun _ => ?_) ?_
      · rw [holds]
        rfl
      · apply serialized.unstored id execution found
        rw [holds]
        rfl
      · intro writes body stored same
        cases same
        exact storedBody_durable durable
  | refused holds => exact serialized.enter found nofun nofun nofun
  | failed running => exact serialized.enter found nofun nofun nofun

theorem Serialized.step {action : ExecutorAction Domain Payload}
    (serialized : Serialized deployment server)
    (stepped : deployment.step server action = some after) : Serialized deployment after := by
  cases step_cases stepped with
  | worked named => exact ⟨serialized.exclusive, serialized.unstored, serialized.durable⟩
  | @submitted id actor command named fresh =>
      have arrived (other : ExecutionId) (row : Execution Domain Payload)
          (present : (server.executions.set id
            { actor := actor, command := command, phase := .arrived }).find? other = some row) :
          server.executions.find? other = some row ∨ row.phase = .arrived := by
        rw [Keyed.Table.find?_set] at present
        by_cases here : other = id
        · rw [if_pos here] at present
          cases present
          exact .inr rfl
        · rw [if_neg here] at present
          exact .inl present
      constructor
      · intro left right one two first second same holds also
        rcases arrived left one first with old | idle
        · rcases arrived right two second with known | idle
          · exact serialized.exclusive _ _ _ _ old known same holds also
          · rw [idle] at also
            cases also
        · rw [idle] at holds
          cases holds
      · intro other row present past
        rcases arrived other row present with old | idle
        · exact serialized.unstored _ _ old past
        · rw [idle] at past
          cases past
      · intro other row writes body stored present phased
        rcases arrived other row present with old | idle
        · exact serialized.durable _ _ _ _ _ old phased
        · rw [idle] at phased
          cases phased
  | moved named found advances => exact serialized.moved found advances
  | @committed id execution writes body stored delivered named found handled unstored =>
      have entered := @Serialized.enter _ _ deployment server id execution
        (.answered (if delivered then .accepted body else .failed)) serialized found nofun nofun
        nofun
      refine ⟨entered.exclusive, ?_, entered.durable⟩
      intro other row present past
      have before := entered.unstored other row present past
      -- the committer held the lock, so another execution past the lookup has another key
      have different : row.key ≠ execution.key := by
        intro same
        have known : other ≠ id ∧ server.executions.find? other = some row := by
          change (server.executions.set id _).find? other = some row at present
          rw [Keyed.Table.find?_set] at present
          by_cases here : other = id
          · rw [if_pos here] at present
            cases present
            cases past
          · rw [if_neg here] at present
            exact ⟨here, present⟩
        apply known.1
        refine serialized.exclusive _ _ _ _ known.2 found same (Phase.pastLookup_holds past) ?_
        rw [handled]
        rfl
      change (server.results.set execution.key _).find? row.key = none
      rw [Keyed.Table.find?_set, if_neg different]
      exact before

/-! What was committed and what was answered. -/

def Execution.done (execution : Execution Domain Payload) : Prop :=
  (∃ body, execution.phase = .answered (.accepted body)) ∨ execution.phase = .answered .failed

structure ResultsKept (deployment : Deployment Domain Payload) (server : Server Domain Payload) :
    Prop where
  once : (server.commits.map Commit.key).Nodup
  opens : ∀ commit ∈ server.commits, ∃ row kind, server.results.find? commit.key = some row ∧
    Durable deployment commit.key.1 kind commit.body row.result ∧
    ∀ command : Command Payload, deployment.requestHash command = row.requestHash →
      command.kind = kind
  logged : ∀ key row, server.results.find? key = some row →
    ∃ commit ∈ server.commits, commit.key = key
  accepted : ∀ id execution body, server.executions.find? id = some execution →
    execution.phase = .answered (.accepted body) → ∃ commit ∈ server.commits,
      commit.key = execution.key ∧ commit.body = body ∧ ∃ row,
        server.results.find? execution.key = some row ∧
        deployment.requestHash execution.command = row.requestHash
  committers : ∀ commit ∈ server.commits, ∃ execution,
    server.executions.find? commit.execution = some execution ∧ execution.done

theorem Advances.running {id : ExecutionId} {execution : Execution Domain Payload}
    {phase : Phase Domain} (advances : Advances deployment server id execution phase) :
    ∀ response, execution.phase ≠ .answered response := by
  cases advances with
  | early unlocked running plain => exact running
  | replayed found running => exact running
  | locked waits free => simp [waits]
  | cleared holds unstored => simp [holds]
  | handled holds durable => simp [holds]
  | refused holds => simp [holds]
  | failed running => exact running

theorem Advances.accepted {id : ExecutionId} {execution : Execution Domain Payload} {body : Body}
    (advances : Advances deployment server id execution (.answered (.accepted body))) :
    ∃ row, server.results.find? execution.key = some row ∧
      deployment.requestHash execution.command = row.requestHash ∧
      deployment.replay execution.actor execution.command row.result = .accepted body := by
  generalize entered : Phase.answered (.accepted body) = phase at advances
  cases advances with
  | early unlocked running plain =>
      subst entered
      rcases plain with same | ⟨record, same⟩ <;> cases same
  | @replayed stored found running =>
      have answered : deployment.storedResultResponse execution.actor execution.command stored =
          .accepted body := (Phase.answered.inj entered).symm
      unfold Deployment.storedResultResponse at answered
      split at answered
      · rename_i same
        exact ⟨stored, found, same.symm, answered⟩
      · cases answered
  | locked waits free => cases entered
  | cleared holds unstored => cases entered
  | handled holds durable => cases entered
  | refused holds => cases entered
  | failed running => cases entered

theorem done_answered {execution : Execution Domain Payload} (done : execution.done) :
    ∃ response, execution.phase = .answered response := by
  rcases done with ⟨body, answered⟩ | failed
  · exact ⟨_, answered⟩
  · exact ⟨_, failed⟩

/-- The log names executions that are done, so a running one is not in it. -/
theorem ResultsKept.elsewhere {id : ExecutionId} {next : Execution Domain Payload}
    (recorded : ResultsKept deployment server)
    (running : ∀ known, server.executions.find? id = some known → ¬ known.done)
    (commit : Commit) (member : commit ∈ server.commits) :
    ∃ done, (server.executions.set id next).find? commit.execution = some done ∧ done.done := by
  obtain ⟨known, found, done⟩ := recorded.committers commit member
  have other : commit.execution ≠ id := by
    intro same
    rw [same] at found
    exact running known found done
  exact ⟨known, by rw [Keyed.Table.find?_set, if_neg other]; exact found, done⟩

theorem ResultsKept.step {action : ExecutorAction Domain Payload}
    (distinguishes : ∀ left right : Command Payload,
      deployment.requestHash left = deployment.requestHash right → left.kind = right.kind)
    (recorded : ResultsKept deployment server) (serialized : Serialized deployment server)
    (stepped : deployment.step server action = some after) : ResultsKept deployment after := by
  cases step_cases stepped with
  | worked named =>
      exact ⟨recorded.once, recorded.opens, recorded.logged, recorded.accepted,
        recorded.committers⟩
  | @submitted id actor command named fresh =>
      refine ⟨recorded.once, recorded.opens, recorded.logged, ?_, ?_⟩
      · intro other execution body present answered
        change (server.executions.set id _).find? other = some execution at present
        rw [Keyed.Table.find?_set] at present
        by_cases here : other = id
        · rw [if_pos here] at present
          cases present
          cases answered
        · rw [if_neg here] at present
          exact recorded.accepted other execution body present answered
      · refine recorded.elsewhere ?_
        intro known found
        rw [fresh] at found
        cases found
  | @moved id execution phase named found advances =>
      refine ⟨recorded.once, recorded.opens, recorded.logged, ?_, ?_⟩
      · intro other row body present answered
        change (server.executions.set id _).find? other = some row at present
        rw [Keyed.Table.find?_set] at present
        by_cases here : other = id
        · rw [if_pos here] at present
          cases present
          simp only at answered
          subst answered
          -- An execution that answers without running replays the stored result of its key.
          obtain ⟨stored, kept, same, replayed⟩ := advances.accepted
          obtain ⟨commit, member, keyed⟩ := recorded.logged _ _ kept
          obtain ⟨opened, kind, again, durable, kinds⟩ := recorded.opens commit member
          rw [keyed] at again durable
          obtain rfl : opened = stored := Option.some.inj (again.symm.trans kept)
          have opens := durable.opens _ (kinds _ same) body replayed
          exact ⟨commit, member, keyed, opens.symm, opened, kept, same⟩
        · rw [if_neg here] at present
          exact recorded.accepted other row body present answered
      · refine recorded.elsewhere ?_
        intro known present done
        obtain rfl : known = execution := Option.some.inj (present.symm.trans found)
        obtain ⟨response, answered⟩ := done_answered done
        exact advances.running response answered
  | @committed id execution writes body stored delivered named found handled unstored =>
      have durable := serialized.durable id execution writes body stored found handled
      -- The key had no stored result, so no earlier commit carries it: this is the first.
      have fresh : ∀ commit ∈ server.commits, commit.key ≠ execution.key := by
        intro commit member same
        obtain ⟨row, kind, present, -⟩ := recorded.opens commit member
        rw [same, unstored] at present
        cases present
      constructor
      · refine List.nodup_cons.mpr ⟨?_, recorded.once⟩
        intro listed
        obtain ⟨commit, member, same⟩ := List.mem_map.mp listed
        exact fresh commit member same
      · intro commit member
        rcases List.mem_cons.mp member with rfl | before
        · refine ⟨{ requestHash := deployment.requestHash execution.command, result := stored },
            execution.command.kind, ?_, durable, fun command same => distinguishes _ _ same⟩
          rw [Keyed.Table.find?_set, if_pos rfl]
        · obtain ⟨row, kind, present, opens⟩ := recorded.opens commit before
          refine ⟨row, kind, ?_, opens⟩
          rw [Keyed.Table.find?_set, if_neg (fresh commit before)]
          exact present
      · intro key row present
        change (server.results.set execution.key _).find? key = some row at present
        rw [Keyed.Table.find?_set] at present
        by_cases here : key = execution.key
        · exact ⟨_, List.mem_cons_self, here.symm⟩
        · rw [if_neg here] at present
          obtain ⟨commit, member, keyed⟩ := recorded.logged key row present
          exact ⟨commit, List.mem_cons_of_mem _ member, keyed⟩
      · intro other row answer present answered
        change (server.executions.set id _).find? other = some row at present
        rw [Keyed.Table.find?_set] at present
        by_cases here : other = id
        · rw [if_pos here] at present
          cases present
          refine ⟨_, List.mem_cons_self, rfl, ?_,
            { requestHash := deployment.requestHash execution.command, result := stored }, ?_, rfl⟩
          · cases delivered with
            | false => cases answered
            | true =>
                cases answered
                rfl
          · change (server.results.set execution.key _).find? execution.key = some _
            rw [Keyed.Table.find?_set, if_pos rfl]
        · rw [if_neg here] at present
          obtain ⟨commit, member, keyed, same, stored, kept, hash⟩ :=
            recorded.accepted other row answer present answered
          refine ⟨commit, List.mem_cons_of_mem _ member, keyed, same, stored, ?_, hash⟩
          have apart : row.key ≠ execution.key := keyed ▸ fresh commit member
          rw [Keyed.Table.find?_set, if_neg apart]
          exact kept
      · intro commit member
        rcases List.mem_cons.mp member with rfl | before
        · refine ⟨_, by rw [Keyed.Table.find?_set, if_pos rfl], ?_⟩
          cases delivered with
          | false => exact .inr rfl
          | true => exact .inl ⟨body, rfl⟩
        · refine recorded.elsewhere ?_ commit before
          intro known present done
          obtain rfl : known = execution := Option.some.inj (present.symm.trans found)
          obtain ⟨response, answered⟩ := done_answered done
          rw [handled] at answered
          cases answered

theorem reachable_resultsKept {start : Domain} {allowed : Server Domain Payload →
      ExecutorAction Domain Payload → Prop}
    (distinguishes : ∀ left right : Command Payload,
      deployment.requestHash left = deployment.requestHash right → left.kind = right.kind)
    (reached : Runs.Reachable (executor deployment start) allowed server) :
    Serialized deployment server ∧ ResultsKept deployment server := by
  refine Runs.invariant (executor deployment start) allowed
    (fun server => Serialized deployment server ∧ ResultsKept deployment server) ?_ ?_ reached
  · intro server init
    rw [show server = _ from init]
    constructor
    · constructor
      · intro id other execution rival found
        cases found
      · intro id execution found
        cases found
      · intro id execution writes body stored found
        cases found
    · constructor
      · exact List.nodup_nil
      · intro commit member
        cases member
      · intro key row present
        cases present
      · intro id execution body found
        cases found
      · intro commit member
        cases member
  · intro before action after known _ stepped
    exact ⟨known.1.step stepped, known.2.step distinguishes known.1 stepped⟩

/-! The law. -/

def Server.sameRows (server after : Server Domain Payload) : Prop :=
  after.domain = server.domain ∧ after.results = server.results

/-- A step of an execution writes rows only as its one commit, and writes none
when its actor and command id have a result of another request: then it is
answered with the conflict, if it is answered at all. -/
structure ExecutionStepLaw (deployment : Deployment Domain Payload)
    (server : Server Domain Payload) (id : ExecutionId) (after : Server Domain Payload) : Prop where
  rows : server.sameRows after ∧ after.commits = server.commits ∨
    ∃ execution body, server.executions.find? id = some execution ∧
      after.commits = { execution := id, key := execution.key, body := body } :: server.commits
  conflict : ∀ execution stored, server.executions.find? id = some execution →
    server.results.find? execution.key = some stored →
    stored.requestHash ≠ deployment.requestHash execution.command →
    server.sameRows after ∧ ∀ done response, after.executions.find? id = some done →
      done.phase = .answered response → response = idempotencyConflict ∨ response = .failed

theorem Advances.conflict {id : ExecutionId} {execution : Execution Domain Payload}
    {response : Response} {stored : StoredResult} (serialized : Serialized deployment server)
    (found : server.executions.find? id = some execution)
    (kept : server.results.find? execution.key = some stored)
    (other : stored.requestHash ≠ deployment.requestHash execution.command)
    (advances : Advances deployment server id execution (.answered response)) :
    response = idempotencyConflict ∨ response = .failed := by
  generalize entered : Phase.answered response = phase at advances
  cases advances with
  | early unlocked running plain =>
      subst entered
      rcases plain with same | ⟨record, same⟩ <;> cases same
  | @replayed row again running =>
      obtain rfl : row = stored := Option.some.inj (again.symm.trans kept)
      left
      rw [Phase.answered.inj entered, Deployment.storedResultResponse, if_neg other]
  | locked waits free => cases entered
  | cleared holds unstored => cases entered
  | handled holds durable => cases entered
  | refused holds =>
      have unstored := serialized.unstored id execution found (by rw [holds]; rfl)
      rw [unstored] at kept
      cases kept
  | failed running => exact .inr (Phase.answered.inj entered)

theorem executionStepLaw {action : ExecutorAction Domain Payload} {id : ExecutionId}
    (serialized : Serialized deployment server) (named : action.execution = some id)
    (stepped : deployment.step server action = some after) :
    ExecutionStepLaw deployment server id after := by
  cases step_cases stepped with
  | worked unnamed => cases unnamed.symm.trans named
  | submitted byId fresh =>
      obtain rfl := Option.some.inj (byId.symm.trans named)
      refine ⟨.inl ⟨⟨rfl, rfl⟩, rfl⟩, ?_⟩
      intro execution stored found
      rw [fresh] at found
      cases found
  | @moved _ execution phase byId found advances =>
      obtain rfl := Option.some.inj (byId.symm.trans named)
      refine ⟨.inl ⟨⟨rfl, rfl⟩, rfl⟩, ?_⟩
      intro known stored present kept other
      obtain rfl : known = execution := Option.some.inj (present.symm.trans found)
      refine ⟨⟨rfl, rfl⟩, ?_⟩
      intro done response entered answered
      rw [Server.enter, Keyed.Table.find?_set, if_pos rfl] at entered
      cases entered
      simp only at answered
      subst answered
      exact advances.conflict serialized found kept other
  | @committed _ execution writes body stored delivered byId found handled unstored =>
      obtain rfl := Option.some.inj (byId.symm.trans named)
      refine ⟨.inr ⟨execution, body, found, rfl⟩, ?_⟩
      intro known row present kept
      obtain rfl : known = execution := Option.some.inj (present.symm.trans found)
      rw [unstored] at kept
      cases kept

/-- The executor is idempotent: the effects of an actor's command id are
committed at most once; an accepted execution answers with what the stored
result of its request hash holds, and two of them with the same; an execution
that was refused committed nothing; and every step of an execution obeys the
law. -/
theorem executor_idempotent (deployment : Deployment Domain Payload) (start : Domain)
    (distinguishes : ∀ left right : Command Payload,
      deployment.requestHash left = deployment.requestHash right → left.kind = right.kind)
    (server : Server Domain Payload)
    (reached : Runs.Reachable (executor deployment start) Runs.anyStep server) :
    (server.commits.map Commit.key).Nodup ∧
    (∀ id execution body, server.executions.find? id = some execution →
      execution.phase = .answered (.accepted body) →
      (∃ stored nonce, server.results.find? execution.key = some stored ∧
        stored.requestHash = deployment.requestHash execution.command ∧
        deployment.storedBody execution.actor execution.command nonce body =
          some stored.result) ∧
      ∀ other twin answer, server.executions.find? other = some twin →
        twin.key = execution.key →
        deployment.requestHash twin.command = deployment.requestHash execution.command →
        twin.phase = .answered (.accepted answer) → answer = body) ∧
    (∀ id execution kind message, server.executions.find? id = some execution →
      execution.phase = .answered (.refused kind message) →
      ∀ commit ∈ server.commits, commit.execution ≠ id) ∧
    ∀ action after id, action.execution = some id → deployment.step server action = some after →
      ExecutionStepLaw deployment server id after := by
  obtain ⟨serialized, recorded⟩ := reachable_resultsKept distinguishes reached
  refine ⟨recorded.once, ?_, ?_, ?_⟩
  · intro id execution body found accepted
    obtain ⟨commit, member, keyed, rfl, stored, kept, hash⟩ :=
      recorded.accepted id execution body found accepted
    constructor
    · obtain ⟨row, kind, present, durable, kinds⟩ := recorded.opens commit member
      rw [keyed] at present durable
      obtain rfl : row = stored := Option.some.inj (present.symm.trans kept)
      obtain ⟨nonce, form⟩ := durable.form
      exact ⟨row, nonce, kept, hash.symm, form _ (kinds _ hash)⟩
    · intro other twin answer present same _ again
      obtain ⟨repeated, listed, matched, rfl, -⟩ :=
        recorded.accepted other twin answer present again
      have one : repeated = commit :=
        List.inj_on_of_nodup_map recorded.once listed member
          (matched.trans (same.trans keyed.symm))
      rw [one]
  · intro id execution kind message found refused commit member same
    obtain ⟨known, present, done⟩ := recorded.committers commit member
    rw [same] at present
    obtain rfl : known = execution := Option.some.inj (present.symm.trans found)
    rcases done with ⟨body, accepted⟩ | failed
    · cases refused.symm.trans accepted
    · cases refused.symm.trans failed
  · intro action after id named stepped
    exact executionStepLaw serialized named stepped

/-! A checkout whose answer was lost, sent again. -/

def kindDigest : CommandKind → List Char
  | .registerListing => ['r']
  | .createCheckout => ['c']
  | .prepareLocks paymentId => 'p' :: List.replicate paymentId 'i'
  | .other kind => 'o' :: kind.toList

theorem kindDigest_injective {left right : CommandKind}
    (same : kindDigest left = kindDigest right) : left = right := by
  cases left <;> cases right <;> simp [kindDigest] at same ⊢
  · exact same
  · exact String.toList_injective same

def orderCounter : Deployment ℕ Unit :=
  { requestHash := fun command => String.ofList (kindDigest command.kind)
    locks := none
    publicRecordRequest := fun _ _ _ => false
    dispatch := fun _ _ _ orders _ =>
      .success (· + 1) { revision := orders, eventIds := [], result := .checkout [] "unpaid" } }

def lampCheckout : Command Unit :=
  { commandId := 1, aggregateId := "lamp", expectedRevision := 0, kind := .createCheckout
    payload := () }

def idleCounter : Server ℕ Unit :=
  { domain := 0, results := .empty, executions := .empty, commits := [] }

def retriedCheckout : List (ExecutorAction ℕ Unit) :=
  [.submit 1 "bob" lampCheckout, .submit 2 "bob" lampCheckout, .request 1, .request 2, .lock 1,
    .lookup 1, .dispatch 1 0 10 0, .commit 1 false, .lock 2, .lookup 2]

theorem retried_checkout_once :
    ∃ server, Runs.Reachable (executor orderCounter 0) Runs.anyStep server ∧
      server.domain = 1 ∧ (server.commits.map Commit.key).Nodup ∧
      ∃ body stored nonce, (server.executions.find? 2).map Execution.phase =
          some (.answered (.accepted body)) ∧
        server.results.find? ("bob", 1) = some stored ∧
        orderCounter.storedBody "bob" lampCheckout nonce body = some stored.result := by
  have distinguishes : ∀ left right : Command Unit,
      orderCounter.requestHash left = orderCounter.requestHash right → left.kind = right.kind := by
    intro left right same
    exact kindDigest_injective (String.ofList_injective same)
  have reached : Runs.Reachable (executor orderCounter 0) Runs.anyStep
      ((Runs.run (executor orderCounter 0) idleCounter retriedCheckout).get rfl) :=
    Runs.reachable_of_meets (.start rfl) (Runs.meets_anyStep _ retriedCheckout idleCounter)
      (Option.some_get _).symm
  obtain ⟨once, accepted, -⟩ := executor_idempotent orderCounter 0 distinguishes _ reached
  obtain ⟨⟨stored, nonce, kept, -, form⟩, -⟩ := accepted 2 _ _ rfl rfl
  exact ⟨_, reached, rfl, once, _, stored, nonce, rfl, kept, form⟩

end Executor

end MarketplaceService
