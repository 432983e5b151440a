import Mathlib.Algebra.Order.Ring.Abs
import MarketplaceService.Schema
import MarketplaceService.Lib.MachineInt

/-!
Sessions from auth tokens (`auth.rs`). A token is accepted inside a window
around the server clock and recorded by its signer and its timestamp; a request
that opens a session first prunes the records that are older than twice the
window. The clock counts nanoseconds since the Unix epoch and the database keeps
whole microseconds. What `pubky-common` makes of the bytes is given with the
request, and so is the step of the transaction that fails, if one does.
-/

namespace MarketplaceService

def minTokenLength : ℕ := 75

def libraryTimestampWindowSeconds : ℤ := 180

/-- What `AuthToken::verify` reads from the bytes. -/
structure AuthToken where
  publicKey : Pubky
  capabilities : String
  timestamp : ℕ
deriving DecidableEq, Repr

structure VerifiedAuthToken where
  pubky : Pubky
  capabilities : String
  timestampMicros : ℤ
deriving DecidableEq, Repr

inductive AuthTokenRejection where
  | malformed
  | invalid
  | outsideAcceptanceWindow
deriving DecidableEq, Repr

abbrev ServerInstant := ℕ

def ServerInstant.timestampMicros (now : ServerInstant) : ℤ := (now / 1000 : ℕ)

/-- `AuthToken::verify` is given; the other checks are the service's. -/
def verifyAuthToken (length : ℕ) (verified : Option AuthToken) (now : ServerInstant)
    (windowSeconds : ℤ) : Except AuthTokenRejection VerifiedAuthToken :=
  if length < minTokenLength then .error .malformed
  else
    match verified with
    | none => .error .invalid
    | some token =>
        if MachineInt.maximum < token.timestamp then .error .invalid
        else
          let driftMicros := (token.timestamp : ℤ) - now.timestampMicros
          if MachineInt.saturate (windowSeconds * 1000000) < |driftMicros| then
            .error .outsideAcceptanceWindow
          else
            .ok
              { pubky := token.publicKey
                capabilities := token.capabilities
                timestampMicros := token.timestamp }

/-- A row of `auth_token_uses`. -/
structure TokenUse where
  pubky : Pubky
  tokenTimestampMicros : ℤ
  usedAtMicros : ℤ
deriving DecidableEq, Repr

abbrev TokenIdentity := Pubky × ℤ

def TokenUse.identity (use : TokenUse) : TokenIdentity := (use.pubky, use.tokenTimestampMicros)

def VerifiedAuthToken.identity (token : VerifiedAuthToken) : TokenIdentity :=
  (token.pubky, token.timestampMicros)

/-- The step of the transaction that fails. A failed commit may have been
applied. -/
inductive SessionFault where
  | opening
  | pruning
  | recording
  | storing
  | committing (applied : Bool)
deriving DecidableEq, Repr

structure SessionRequest where
  now : ServerInstant
  length : ℕ
  verified : Option AuthToken
  fault : Option SessionFault
deriving DecidableEq, Repr

inductive SessionResponse where
  | created (token : VerifiedAuthToken)
  | tokenInvalid
  | tokenUsed
  | failed
deriving DecidableEq, Repr

/-- `2 * window.max(LIBRARY_TIMESTAMP_WINDOW_SECONDS)`, in 64 bits. -/
def retentionSeconds (windowSeconds : ℤ) : ℤ :=
  MachineInt.wrap (2 * max windowSeconds libraryTimestampWindowSeconds)

/-- The records that a request at `now` keeps. -/
def pruneUses (windowSeconds : ℤ) (now : ServerInstant) (uses : List TokenUse) : List TokenUse :=
  uses.filter fun use =>
    !decide (use.usedAtMicros < now.timestampMicros - retentionSeconds windowSeconds * 1000000)

def VerifiedAuthToken.use (token : VerifiedAuthToken) (now : ServerInstant) : TokenUse :=
  { pubky := token.pubky
    tokenTimestampMicros := token.timestampMicros
    usedAtMicros := now.timestampMicros }

/-- `create_session`: what it leaves of the records, and the answer. Every answer
but the first drops the transaction. -/
def createSession (windowSeconds : ℤ) (uses : List TokenUse) (request : SessionRequest) :
    List TokenUse × SessionResponse :=
  match verifyAuthToken request.length request.verified request.now windowSeconds with
  | .error _ => (uses, .tokenInvalid)
  | .ok token =>
      let pruned := pruneUses windowSeconds request.now uses
      let recorded := pruned ++ [token.use request.now]
      match request.fault with
      | some .opening | some .pruning | some .recording => (uses, .failed)
      | fault =>
          if pruned.any fun use => use.identity == token.identity then (uses, .tokenUsed)
          else
            match fault with
            | none => (recorded, .created token)
            | some (.committing true) => (recorded, .failed)
            | some _ => (uses, .failed)

def SessionResponse.accepts : SessionResponse → Option TokenIdentity
  | .created token => some token.identity
  | _ => none

/-- The records after some requests, and the tokens that were accepted. -/
def createSessions (windowSeconds : ℤ) (uses : List TokenUse) :
    List SessionRequest → List TokenUse × List TokenIdentity
  | [] => (uses, [])
  | request :: rest =>
      let served := createSession windowSeconds uses request
      let ran := createSessions windowSeconds served.1 rest
      (ran.1, served.2.accepts.toList ++ ran.2)

/-! What a request does. -/

section Steps

variable {windowSeconds : ℤ} {uses : List TokenUse} {request : SessionRequest}

theorem verifyAuthToken_ok {length : ℕ} {verified : Option AuthToken} {now : ServerInstant}
    {token : VerifiedAuthToken}
    (accepted : verifyAuthToken length verified now windowSeconds = .ok token) :
    |token.timestampMicros - now.timestampMicros| ≤
      MachineInt.saturate (windowSeconds * 1000000) := by
  unfold verifyAuthToken at accepted
  split at accepted
  · cases accepted
  · split at accepted
    · cases accepted
    · split at accepted
      · cases accepted
      · simp only at accepted
        split at accepted
        · cases accepted
        · rename_i inside
          cases accepted
          exact not_lt.mp inside

/-- A request leaves the records, or prunes them and adds the use of a token that
has none; only then is the token accepted. -/
theorem createSession_cases (windowSeconds : ℤ) (uses : List TokenUse) (request : SessionRequest) :
    (createSession windowSeconds uses request).1 = uses ∧
        (createSession windowSeconds uses request).2.accepts = none ∨
      ∃ token, verifyAuthToken request.length request.verified request.now windowSeconds =
          .ok token ∧
        (createSession windowSeconds uses request).1 =
          pruneUses windowSeconds request.now uses ++ [token.use request.now] ∧
        (∀ use ∈ pruneUses windowSeconds request.now uses, use.identity ≠ token.identity) ∧
        ∀ identity ∈ (createSession windowSeconds uses request).2.accepts,
          identity = token.identity := by
  unfold createSession
  cases verified : verifyAuthToken request.length request.verified request.now windowSeconds with
  | error rejection => exact .inl ⟨rfl, rfl⟩
  | ok token =>
      by_cases used : ((pruneUses windowSeconds request.now uses).any fun use =>
          use.identity == token.identity) = true
      · rcases request.fault with _ | ⟨_ | _ | _ | _ | _⟩ <;>
          exact .inl (by simp [used, SessionResponse.accepts])
      · have fresh : ∀ use ∈ pruneUses windowSeconds request.now uses,
            use.identity ≠ token.identity := by
          simpa using used
        rcases request.fault with _ | ⟨_ | _ | _ | _ | applied⟩
        · refine .inr ⟨token, rfl, by simp [used], fresh, ?_⟩
          simp [used, SessionResponse.accepts]
        · exact .inl ⟨rfl, rfl⟩
        · exact .inl ⟨rfl, rfl⟩
        · exact .inl ⟨rfl, rfl⟩
        · exact .inl (by simp [used, SessionResponse.accepts])
        · cases applied with
          | false => exact .inl (by simp [used, SessionResponse.accepts])
          | true =>
              refine .inr ⟨token, rfl, by simp [used], fresh, ?_⟩
              simp [used, SessionResponse.accepts]

end Steps

/-! The records of accepted tokens. -/

def RetentionFits (windowSeconds : ℤ) : Prop :=
  2 * max windowSeconds libraryTimestampWindowSeconds ≤ MachineInt.maximum

instance (windowSeconds : ℤ) : Decidable (RetentionFits windowSeconds) :=
  inferInstanceAs (Decidable (_ ≤ _))

/-- Two instants at which one token is accepted are no further apart than a
record is kept. -/
theorem window_retained {windowSeconds : ℤ} (fits : RetentionFits windowSeconds) :
    2 * MachineInt.saturate (windowSeconds * 1000000) ≤
      retentionSeconds windowSeconds * 1000000 := by
  unfold RetentionFits libraryTimestampWindowSeconds at fits
  have whole : retentionSeconds windowSeconds =
      2 * max windowSeconds libraryTimestampWindowSeconds := by
    refine MachineInt.wrap_of_inRange ⟨?_, fits⟩
    unfold MachineInt.minimum libraryTimestampWindowSeconds
    omega
  rw [whole]
  unfold MachineInt.saturate MachineInt.minimum MachineInt.maximum libraryTimestampWindowSeconds
  omega

/-- Each accepted token was accepted at some time, and its record is still there
or was due by the last request. -/
def UsesRecorded (windowSeconds : ℤ) (last : ServerInstant) (uses : List TokenUse)
    (accepted : List TokenIdentity) : Prop :=
  ∀ identity ∈ accepted, ∃ usedAtMicros : ℤ,
    |identity.2 - usedAtMicros| ≤ MachineInt.saturate (windowSeconds * 1000000) ∧
      (⟨identity.1, identity.2, usedAtMicros⟩ ∈ uses ∨
        usedAtMicros < last.timestampMicros - retentionSeconds windowSeconds * 1000000)

section Records

variable {windowSeconds : ℤ} {last : ServerInstant} {uses : List TokenUse}
  {accepted : List TokenIdentity}

theorem timestampMicros_mono {earlier later : ServerInstant} (ordered : earlier ≤ later) :
    earlier.timestampMicros ≤ later.timestampMicros := by
  unfold ServerInstant.timestampMicros
  exact_mod_cast Nat.div_le_div_right ordered

theorem UsesRecorded.live (recorded : UsesRecorded windowSeconds last uses accepted)
    (fits : RetentionFits windowSeconds) {identity : TokenIdentity} (member : identity ∈ accepted)
    {now : ServerInstant} (later : last ≤ now)
    (inside : |identity.2 - now.timestampMicros| ≤
      MachineInt.saturate (windowSeconds * 1000000)) :
    ∃ usedAtMicros, ⟨identity.1, identity.2, usedAtMicros⟩ ∈ uses ∧
      ¬ usedAtMicros < now.timestampMicros - retentionSeconds windowSeconds * 1000000 := by
  obtain ⟨usedAtMicros, used, kept⟩ := recorded identity member
  have bounded := window_retained fits
  have ordered := timestampMicros_mono later
  rw [abs_le] at used inside
  have recent :
      ¬ usedAtMicros < now.timestampMicros - retentionSeconds windowSeconds * 1000000 := by
    omega
  rcases kept with present | due
  · exact ⟨usedAtMicros, present, recent⟩
  · omega

theorem UsesRecorded.later (recorded : UsesRecorded windowSeconds last uses accepted)
    {now : ServerInstant}
    (ordered : last ≤ now) : UsesRecorded windowSeconds now uses accepted := by
  intro identity member
  obtain ⟨usedAtMicros, used, kept⟩ := recorded identity member
  have advanced := timestampMicros_mono ordered
  exact ⟨usedAtMicros, used, kept.imp_right fun due => by omega⟩

theorem UsesRecorded.pruned (recorded : UsesRecorded windowSeconds last uses accepted)
    {now : ServerInstant}
    (ordered : last ≤ now) :
    UsesRecorded windowSeconds now (pruneUses windowSeconds now uses) accepted := by
  intro identity member
  obtain ⟨usedAtMicros, used, kept⟩ := recorded.later ordered identity member
  refine ⟨usedAtMicros, used, ?_⟩
  rcases kept with present | due
  · by_cases old : usedAtMicros <
        now.timestampMicros - retentionSeconds windowSeconds * 1000000
    · exact .inr old
    · exact .inl (List.mem_filter.mpr ⟨present, by simpa using old⟩)
  · exact .inr due

theorem UsesRecorded.step (recorded : UsesRecorded windowSeconds last uses accepted)
    (fits : RetentionFits windowSeconds) {request : SessionRequest}
    (ordered : last ≤ request.now) :
    UsesRecorded windowSeconds request.now (createSession windowSeconds uses request).1
        (accepted ++ (createSession windowSeconds uses request).2.accepts.toList) ∧
      ∀ identity ∈ (createSession windowSeconds uses request).2.accepts,
        identity ∉ accepted := by
  rcases createSession_cases windowSeconds uses request with
    ⟨same, nothing⟩ | ⟨token, verified, written, fresh, only⟩
  · rw [same, nothing, Option.toList_none, List.append_nil]
    exact ⟨recorded.later ordered, nofun⟩
  · have inside := verifyAuthToken_ok verified
    refine ⟨?_, ?_⟩
    · intro identity member
      rcases List.mem_append.mp member with before | now
      · obtain ⟨usedAtMicros, used, kept⟩ := recorded.pruned ordered identity before
        rw [written]
        exact ⟨usedAtMicros, used, kept.imp_left fun present => List.mem_append_left _ present⟩
      · rw [only identity (Option.mem_toList.mp now), written]
        exact ⟨request.now.timestampMicros, inside, .inl (by simp [VerifiedAuthToken.use,
          VerifiedAuthToken.identity])⟩
    · intro identity accepts before
      obtain rfl := only identity accepts
      obtain ⟨usedAtMicros, present, recent⟩ := recorded.live fits before ordered inside
      refine fresh _ (List.mem_filter.mpr ⟨present, by simpa using recent⟩) ?_
      rfl

end Records

/-- Over whole runs no token is accepted twice, and the records cover what is
accepted. -/
theorem createSessions_recorded {windowSeconds : ℤ} (fits : RetentionFits windowSeconds)
    (requests : List SessionRequest) :
    ∀ {last : ServerInstant} {uses : List TokenUse} {accepted : List TokenIdentity},
      UsesRecorded windowSeconds last uses accepted → accepted.Nodup →
      (last :: requests.map SessionRequest.now).Pairwise (· ≤ ·) →
      (accepted ++ (createSessions windowSeconds uses requests).2).Nodup ∧
        UsesRecorded windowSeconds ((requests.map SessionRequest.now).getLastD last)
          (createSessions windowSeconds uses requests).1
          (accepted ++ (createSessions windowSeconds uses requests).2) := by
  induction requests with
  | nil =>
      intro last uses accepted recorded distinct _
      simpa [createSessions] using And.intro distinct recorded
  | cons request rest ih =>
      intro last uses accepted recorded distinct ordered
      obtain ⟨first, later⟩ := List.pairwise_cons.mp ordered
      obtain ⟨kept, fresh⟩ := recorded.step fits (first request.now (by simp))
      have apart : (accepted ++
          (createSession windowSeconds uses request).2.accepts.toList).Nodup := by
        refine List.nodup_append.mpr ⟨distinct, Option.toList_nodup _, ?_⟩
        intro identity before other now same
        subst same
        exact fresh identity (Option.mem_toList.mp now) before
      obtain ⟨all, final⟩ := ih kept apart later
      simp only [createSessions, ← List.append_assoc, List.map_cons, List.getLastD_cons]
      exact ⟨all, final⟩

/-- Over any requests at non-decreasing times no token is accepted twice, and a
token that would still be accepted has its record. -/
theorem tokens_accepted_once (windowSeconds : ℤ) (fits : RetentionFits windowSeconds)
    (requests : List SessionRequest)
    (ordered : (requests.map SessionRequest.now).Pairwise (· ≤ ·)) :
    (createSessions windowSeconds [] requests).2.Nodup ∧
      ∀ identity ∈ (createSessions windowSeconds [] requests).2,
        ∀ (length : ℕ) (verified : Option AuthToken) (now : ServerInstant)
          (token : VerifiedAuthToken),
          (∀ request ∈ requests, request.now ≤ now) →
          verifyAuthToken length verified now windowSeconds = .ok token →
          token.identity = identity →
          ∃ use ∈ (createSessions windowSeconds [] requests).1, use.identity = identity := by
  have started : UsesRecorded windowSeconds 0 [] [] := nofun
  obtain ⟨distinct, recorded⟩ := createSessions_recorded fits requests started List.nodup_nil
    (List.pairwise_cons.mpr ⟨fun _ _ => Nat.zero_le _, ordered⟩)
  rw [List.nil_append] at distinct recorded
  refine ⟨distinct, ?_⟩
  rintro identity member length verified now token later accepted rfl
  have last : (requests.map SessionRequest.now).getLastD 0 ≤ now := by
    rcases List.mem_cons.mp List.getLastD_mem_cons with zero | known
    · rw [zero]
      exact Nat.zero_le _
    · obtain ⟨request, served, same⟩ := List.mem_map.mp known
      rw [← same]
      exact later request served
  obtain ⟨usedAtMicros, present, -⟩ := recorded.live fits member last
    (verifyAuthToken_ok accepted)
  exact ⟨_, present, rfl⟩

/-- A token dated two minutes ahead, presented at the given second. -/
def aheadToken (seconds : ℕ) : SessionRequest :=
  { now := seconds * 1000000000
    length := 120
    verified := some
      { publicKey := "alice", capabilities := "/pub/:rw", timestamp := 1120000000 }
    fault := none }

/-- The token is still inside its window four minutes after its use, and its
record is there. -/
theorem ahead_token_once :
    (createSessions 120 [] [aheadToken 1000, aheadToken 1240]).2 = [("alice", 1120000000)] ∧
      (createSessions 120 [] [aheadToken 1000, aheadToken 1240]).2.Nodup ∧
      ∃ use ∈ (createSessions 120 [] [aheadToken 1000, aheadToken 1240]).1,
        use.identity = ("alice", 1120000000) := by
  have once := tokens_accepted_once 120 (by decide) [aheadToken 1000, aheadToken 1240] (by decide)
  refine ⟨by decide, once.1, ?_⟩
  exact once.2 ("alice", 1120000000) (by decide) 120 (aheadToken 1240).verified
    (aheadToken 1240).now _ (by decide) rfl rfl

end MarketplaceService
