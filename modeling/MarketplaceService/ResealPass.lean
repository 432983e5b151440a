import MarketplaceService.Lib.Keyset
import MarketplaceService.Lib.Run
import MarketplaceService.Lib.Table
import MarketplaceService.Sealing

/-!
One re-seal pass (`reseal_previous_key_batch` of `digital.rs` and `pickup.rs`)
and the interleavings of any number of passes with the writers of the same rows.

The two passes have one shape. A pass pages each family of rows by key, opens
every row it read, re-seals the rows that are still under the previous key and
writes them back; a row that opens under neither key is counted and fails the
pass at its end; otherwise a sweep counts the rows under the previous key. What
differs is a `ResealTarget`: the families, the keys they are paged by, the
condition of the write and whether the sweep is paged.

A pass takes no row lock. It is a process of its own that stops between any two
statements, and its opened and re-sealed bytes are its memory. A statement that
fails ends the pass, which is a pass that takes no further step.
-/

namespace MarketplaceService

def resealBatchSize : ℕ := 100

/-- `ResealProgress`. The pickup pass counts no skipped rows. -/
structure ResealProgress (Family : Type) where
  resealed : Family → ℕ
  skippedChanged : ℕ
  remainingUnderPrevious : ℕ

/-- What a pass reads and writes of a store. The flag of `write` says whether a
row was written; `countBatch` is missing where the sweep reads a family at once. -/
structure ResealTarget (Store Family Row Position : Type) where
  families : List Family
  start : Option Position
  rows : Store → Family → List Row
  position : Row → Position
  aad : Row → Bytes
  ciphertext : Row → Bytes
  write : Store → Family → Row → Bytes → Store × Bool
  countBatch : Option ℕ

/-- Where a pass stands: the families it has not finished, the position and the
rows of the page it works on. -/
inductive Pass (Family Row Position : Type) where
  | walking (families : List Family) (after : Option Position) (batch : List Row)
      (unopenable : ℕ) (progress : ResealProgress Family)
  | counting (families : List Family) (after : Option Position)
      (progress : ResealProgress Family)
  | completed (progress : ResealProgress Family)
  | failed (unopenable : ℕ)

section Pass

variable {Store Family Row Position : Type} [LinearOrder Position]

namespace ResealProgress

def default : ResealProgress Family := ⟨fun _ => 0, 0, 0⟩

/-- The counter of a row that was written, or of one that had changed. -/
def count [DecidableEq Family] (progress : ResealProgress Family) (family : Family)
    (written : Bool) :
    ResealProgress Family :=
  if written then
    { progress with
      resealed := Function.update progress.resealed family (progress.resealed family + 1) }
  else { progress with skippedChanged := progress.skippedChanged + 1 }

def remain (progress : ResealProgress Family) (rows : ℕ) : ResealProgress Family :=
  { progress with remainingUnderPrevious := progress.remainingUnderPrevious + rows }

end ResealProgress

namespace ResealTarget

variable (target : ResealTarget Store Family Row Position) (aead : Aead) (keys : RotatingKeys)

def page (store : Store) (family : Family) (after : Option Position) : List Row :=
  Keyset.page target.position after resealBatchSize (target.rows store family)

def lastPosition (rows : List Row) (after : Option Position) : Option Position :=
  (rows.getLast?.map target.position).or after

def underPrevious (rows : List Row) : ℕ :=
  rows.countP fun row =>
    (keys.openUnderPrevious aead (target.aad row) (target.ciphertext row)).isSome

/-- The first state of a pass. -/
def begin : Pass Family Row Position :=
  if keys.hasPrevious then .walking target.families target.start [] 0 .default
  else .completed .default

/-- One statement of a pass with the work on the row it is about. -/
def advance [DecidableEq Family] (store : Store) (nonce : XNonce) :
    Pass Family Row Position → Pass Family Row Position × Store
  | .walking [] _ _ unopenable progress =>
      if 0 < unopenable then (.failed unopenable, store)
      else (.counting target.families target.start progress, store)
  | .walking (family :: rest) after [] unopenable progress =>
      match target.page store family after with
      | [] => (.walking rest target.start [] unopenable progress, store)
      | row :: batch =>
          (.walking (family :: rest) (target.lastPosition (row :: batch) after) (row :: batch)
            unopenable progress, store)
  | .walking (family :: rest) after (row :: batch) unopenable progress =>
      if keys.opensUnderCurrent aead (target.aad row) (target.ciphertext row) then
        (.walking (family :: rest) after batch unopenable progress, store)
      else
        match keys.openUnderPrevious aead (target.aad row) (target.ciphertext row) with
        | none => (.walking (family :: rest) after batch (unopenable + 1) progress, store)
        | some plaintext =>
            let resealed := keys.sealBytes aead nonce (target.aad row) plaintext
            let written := target.write store family row resealed
            (.walking (family :: rest) after batch unopenable
              (progress.count family written.2), written.1)
  | .counting [] _ progress => (.completed progress, store)
  | .counting (family :: rest) after progress =>
      match target.countBatch with
      | none =>
          (.counting rest target.start
            (progress.remain (target.underPrevious aead keys (target.rows store family))), store)
      | some limit =>
          match Keyset.page target.position after limit (target.rows store family) with
          | [] => (.counting rest target.start progress, store)
          | row :: batch =>
              (.counting (family :: rest) (target.lastPosition (row :: batch) after)
                (progress.remain (target.underPrevious aead keys (row :: batch))), store)
  | .completed progress => (.completed progress, store)
  | .failed unopenable => (.failed unopenable, store)

end ResealTarget

/-- The store and the passes that are under way, by worker. -/
structure SealedWorld (Store Family Row Position : Type) where
  store : Store
  passes : Keyed.Table ℕ (Pass Family Row Position)

inductive SealedAction (Writer : Type) where
  | write (writer : Writer)
  | beginPass (worker : ℕ)
  | advance (worker : ℕ) (nonce : XNonce)

def SealedAction.writer? {Writer : Type} : SealedAction Writer → Option Writer
  | .write writer => some writer
  | .beginPass _ => none
  | .advance _ _ => none

variable {Writer Plain : Type}

/-- The writers of a store and the passes over it. -/
def sealedSystem [DecidableEq Family] (target : ResealTarget Store Family Row Position)
    (aead : Aead)
    (keys : RotatingKeys) (sound : Store → Prop) (apply : Store → Writer → Option Store) :
    Runs.System (SealedWorld Store Family Row Position) (SealedAction Writer) where
  initial world := sound world.store ∧ world.passes = Keyed.Table.empty
  step world
    | .write writer => (apply world.store writer).map fun store => { world with store }
    | .beginPass worker =>
        some { world with passes := world.passes.set worker (target.begin keys) }
    | .advance worker nonce =>
        (world.passes.find? worker).map fun pass =>
          let next := target.advance aead keys world.store nonce pass
          { store := next.2, passes := world.passes.set worker next.1 }

/-- The writers alone, over rows that are not sealed. -/
def plainSystem (apply : Plain → Writer → Option Plain) : Runs.System Plain Writer where
  initial _ := True
  step := apply

/-! What the passes and the writers keep. -/

section Law

variable (target : ResealTarget Store Family Row Position) (aead : Aead) (keys : RotatingKeys)
  (sound : Store → Prop) (held : Store → Family → Row → Prop)

def ResealTarget.Fresh (row : Row) : Prop :=
  keys.opensUnderCurrent aead (target.aad row) (target.ciphertext row) = true

/-- A change of the store as a pass sees it: what the pass has read is still a
reading of the row it came from, and the rows that changed are under the current
key. -/
structure ResealTarget.Keeps (before after : Store) : Prop where
  sound : sound after
  held : ∀ family row, held before family row → held after family row
  rows : ∀ family, ∀ row ∈ target.rows after family,
    row ∈ target.rows before family ∨ target.Fresh aead keys row

/-- What a store owes to its passes. `held` says that a row was read from the
store; `opened` is the store with every payload opened. -/
structure ResealTarget.Law (apply : Store → Writer → Option Store) (opened : Store → Plain)
    (applyPlain : Plain → Writer → Option Plain) : Prop where
  every : ∀ family, family ∈ target.families
  distinct : ∀ store family, ((target.rows store family).map target.position).Nodup
  ahead : ∀ store family, ∀ row ∈ target.rows store family,
    Keyset.Past target.start (target.position row)
  read : ∀ store family row, sound store → row ∈ target.rows store family →
    held store family row
  writes : ∀ {store after writer}, sound store → apply store writer = some after →
    target.Keeps aead keys sound held store after ∧
      applyPlain (opened store) writer = some (opened after)
  reseals : ∀ {store family row plaintext} (nonce : XNonce), sound store →
    held store family row → ¬ target.Fresh aead keys row →
    keys.openUnderPrevious aead (target.aad row) (target.ciphertext row) = some plaintext →
    let after := (target.write store family row
      (keys.sealBytes aead nonce (target.aad row) plaintext)).1
    target.Keeps aead keys sound held store after ∧ opened after = opened store ∧
      row ∉ target.rows after family

/-- A pass has read what its page holds, and behind its position every row is
under the current key unless one was found that opens under neither. -/
def ResealTarget.PassSound (store : Store) : Pass Family Row Position → Prop
  | .walking [] _ _ unopenable _ =>
      0 < unopenable ∨ ∀ family, ∀ row ∈ target.rows store family, target.Fresh aead keys row
  | .walking (family :: rest) after batch unopenable _ =>
      (∀ row ∈ batch, held store family row) ∧
        (0 < unopenable ∨
          (∀ other, other ∉ family :: rest → ∀ row ∈ target.rows store other,
            target.Fresh aead keys row) ∧
          ∀ row ∈ target.rows store family, target.Fresh aead keys row ∨ row ∈ batch ∨
            Keyset.Past after (target.position row))
  | .counting _ _ _ => ∀ family, ∀ row ∈ target.rows store family, target.Fresh aead keys row
  | .completed _ => ∀ family, ∀ row ∈ target.rows store family, target.Fresh aead keys row
  | .failed _ => True

end Law

namespace ResealTarget

variable {target : ResealTarget Store Family Row Position} {aead : Aead} {keys : RotatingKeys}
  {sound : Store → Prop} {held : Store → Family → Row → Prop}

omit [LinearOrder Position] in
theorem Keeps.refl {store : Store} (holds : sound store) :
    target.Keeps aead keys sound held store store :=
  ⟨holds, fun _ _ kept => kept, fun _ _ member => .inl member⟩

theorem Keeps.passSound {before after : Store}
    (keeps : target.Keeps aead keys sound held before after) {pass : Pass Family Row Position}
    (holds : target.PassSound aead keys held before pass) :
    target.PassSound aead keys held after pass := by
  have fresh {family : Family}
      (all : ∀ row ∈ target.rows before family, target.Fresh aead keys row) :
      ∀ row ∈ target.rows after family, target.Fresh aead keys row := fun row member =>
    (keeps.rows family row member).elim (all row) id
  match pass with
  | .walking [] _ _ _ _ => exact holds.imp_right fun all family => fresh (all family)
  | .walking (family :: rest) position batch _ _ =>
      refine ⟨fun row member => keeps.held family row (holds.1 row member),
        holds.2.imp_right fun walked => ⟨fun other done => fresh (walked.1 other done), ?_⟩⟩
      intro row member
      rcases keeps.rows family row member with old | current
      · exact walked.2 row old
      · exact .inl current
  | .counting _ _ _ => exact fun family => fresh (holds family)
  | .completed _ => exact fun family => fresh (holds family)
  | .failed _ => trivial

section Step

variable {apply : Store → Writer → Option Store} {opened : Store → Plain}
  {applyPlain : Plain → Writer → Option Plain}
  (law : target.Law aead keys sound held apply opened applyPlain)
include law

theorem Law.paged {store : Store} {family : Family} {after : Option Position} {row : Row}
    {batch : List Row} (holds : sound store)
    (read : target.page store family after = row :: batch) :
    (∀ each ∈ row :: batch, held store family each) ∧
      ∀ each ∈ target.rows store family, Keyset.Past after (target.position each) →
        each ∈ row :: batch ∨
          Keyset.Past (target.lastPosition (row :: batch) after) (target.position each) := by
  have positive : 0 < resealBatchSize := by decide
  refine ⟨fun each listed => ?_, fun each present past => ?_⟩
  · rw [← read] at listed
    exact law.read store family each holds (Keyset.mem_page listed).1
  · rcases Keyset.page_covers positive present past with listed | ⟨last, ends, behind⟩
    · rw [← read]
      exact .inl listed
    · have final : (row :: batch).getLast? = some last := read ▸ ends
      have listed : last ∈ target.page store family after := List.mem_of_getLast? ends
      by_cases same : each = last
      · left
        rw [← read, same]
        exact listed
      · right
        have apart : target.position last ≠ target.position each := fun eq =>
          same (List.inj_on_of_nodup_map (law.distinct store family) present
            (Keyset.mem_page listed).1 eq.symm)
        rw [lastPosition, final]
        intro position at_
        cases at_
        exact lt_of_le_of_ne behind apart

/-- One statement of a pass keeps what every store owes, opens to the same
payloads and leaves the pass sound. -/
theorem Law.advanced [DecidableEq Family] {store : Store} {nonce : XNonce}
    {pass : Pass Family Row Position} (holds : sound store)
    (passing : target.PassSound aead keys held store pass) :
    let next := target.advance aead keys store nonce pass
    target.Keeps aead keys sound held store next.2 ∧ opened next.2 = opened store ∧
      target.PassSound aead keys held next.2 next.1 := by
  match pass with
  | .walking [] _ _ unopenable _ =>
      by_cases corrupt : 0 < unopenable
      · simp only [advance, corrupt, if_true]
        exact ⟨.refl holds, trivial, trivial⟩
      · simp only [advance, corrupt, if_false]
        exact ⟨.refl holds, trivial, passing.resolve_left corrupt⟩
  | .walking (family :: rest) after [] unopenable progress =>
      cases read : target.page store family after with
      | nil =>
          simp only [advance, read]
          refine ⟨.refl holds, trivial, ?_⟩
          have walked : 0 < unopenable ∨ (∀ other, other ∉ rest →
              ∀ row ∈ target.rows store other, target.Fresh aead keys row) := by
            refine passing.2.imp_right fun walked other done row member => ?_
            by_cases same : other = family
            · subst same
              rcases walked.2 row member with fresh | listed | past
              · exact fresh
              · cases listed
              · exact absurd past (Keyset.page_nil (by decide) read member)
            · exact walked.1 other (by simp [same, done]) row member
          cases rest with
          | nil => exact walked.imp_right fun all other => all other List.not_mem_nil
          | cons other others =>
              refine ⟨fun row listed => (List.not_mem_nil listed).elim,
                walked.imp_right fun all => ⟨all, fun row member => ?_⟩⟩
              exact .inr (.inr (law.ahead store other row member))
      | cons row batch =>
          simp only [advance, read]
          obtain ⟨reads, covers⟩ := law.paged holds read
          refine ⟨.refl holds, trivial, reads, passing.2.imp_right fun walked =>
            ⟨walked.1, fun each member => ?_⟩⟩
          rcases walked.2 each member with fresh | listed | past
          · exact .inl fresh
          · cases listed
          · exact .inr (covers each member past)
  | .walking (family :: rest) after (row :: batch) unopenable progress =>
      by_cases fresh : keys.opensUnderCurrent aead (target.aad row) (target.ciphertext row) = true
      · simp only [advance, fresh, if_true]
        refine ⟨.refl holds, trivial, fun each listed =>
          passing.1 each (List.mem_cons_of_mem _ listed),
          passing.2.imp_right fun walked => ⟨walked.1, fun each member => ?_⟩⟩
        rcases walked.2 each member with current | listed | past
        · exact .inl current
        · rcases List.mem_cons.mp listed with rfl | listed
          · exact .inl fresh
          · exact .inr (.inl listed)
        · exact .inr (.inr past)
      · cases opens : keys.openUnderPrevious aead (target.aad row) (target.ciphertext row) with
        | none =>
            simp only [advance, fresh, opens, Bool.false_eq_true, if_false]
            exact ⟨.refl holds, trivial,
              fun each listed => passing.1 each (List.mem_cons_of_mem _ listed),
              .inl (Nat.succ_pos unopenable)⟩
        | some plaintext =>
            simp only [advance, fresh, opens]
            obtain ⟨keeps, same, gone⟩ := law.reseals nonce holds
              (passing.1 row List.mem_cons_self) fresh opens
            refine ⟨keeps, same, ?_⟩
            have moved := keeps.passSound passing
            refine ⟨fun each listed => moved.1 each (List.mem_cons_of_mem _ listed),
              moved.2.imp_right fun walked => ⟨walked.1, fun each member => ?_⟩⟩
            rcases walked.2 each member with current | listed | past
            · exact .inl current
            · rcases List.mem_cons.mp listed with rfl | listed
              · exact absurd member gone
              · exact .inr (.inl listed)
            · exact .inr (.inr past)
  | .counting [] _ _ =>
      simp only [advance]
      exact ⟨.refl holds, trivial, passing⟩
  | .counting (family :: rest) after progress =>
      cases limited : target.countBatch with
      | none =>
          simp only [advance, limited]
          exact ⟨.refl holds, trivial, passing⟩
      | some limit =>
          simp only [advance, limited]
          cases Keyset.page target.position after limit (target.rows store family) with
          | nil => exact ⟨.refl holds, rfl, passing⟩
          | cons row batch => exact ⟨.refl holds, rfl, passing⟩
  | .completed _ => exact ⟨.refl holds, rfl, passing⟩
  | .failed _ => exact ⟨.refl holds, rfl, passing⟩

/-- The invariant of the runs: the store is sound, and so is every pass. -/
def WorldSound (target : ResealTarget Store Family Row Position) (aead : Aead)
    (keys : RotatingKeys) (sound : Store → Prop) (held : Store → Family → Row → Prop)
    (world : SealedWorld Store Family Row Position) : Prop :=
  sound world.store ∧ ∀ worker pass, world.passes.find? worker = some pass →
    target.PassSound aead keys held world.store pass

theorem Law.begin_sound (both : keys.hasPrevious = true) (store : Store) :
    target.PassSound aead keys held store (target.begin keys) := by
  rw [begin, if_pos both]
  match shape : target.families with
  | [] => exact .inr fun family => absurd (law.every family) (by simp [shape])
  | family :: rest =>
      refine ⟨fun row listed => (List.not_mem_nil listed).elim, .inr ⟨fun other missing => ?_, ?_⟩⟩
      · exact absurd (shape ▸ law.every other) missing
      · exact fun row member => .inr (.inr (law.ahead store family row member))

/-- A step keeps the invariant. A writer does to the opened rows what it does
where nothing is sealed; a pass changes none of them. -/
theorem Law.step [DecidableEq Family] (both : keys.hasPrevious = true)
    {world after : SealedWorld Store Family Row Position} {action : SealedAction Writer}
    (holds : target.WorldSound aead keys sound held world)
    (stepped : (sealedSystem target aead keys sound apply).step world action = some after) :
    target.WorldSound aead keys sound held after ∧
      Runs.run (plainSystem applyPlain) (opened world.store) action.writer?.toList =
        some (opened after.store) := by
  cases action with
  | write writer =>
      obtain ⟨store, ran, rfl⟩ := Option.map_eq_some_iff.mp stepped
      obtain ⟨keeps, plain⟩ := law.writes holds.1 ran
      refine ⟨⟨keeps.sound, fun worker pass found =>
        keeps.passSound (holds.2 worker pass found)⟩, ?_⟩
      exact Runs.run_step plain rfl
  | beginPass worker =>
      cases stepped
      refine ⟨⟨holds.1, fun other pass found => ?_⟩, rfl⟩
      rw [Keyed.Table.find?_set] at found
      split at found
      · cases found
        exact law.begin_sound both world.store
      · exact holds.2 other pass found
  | advance worker nonce =>
      obtain ⟨pass, found, rfl⟩ := Option.map_eq_some_iff.mp stepped
      obtain ⟨keeps, same, passing⟩ := law.advanced holds.1 (holds.2 worker pass found)
      refine ⟨⟨keeps.sound, fun other next present => ?_⟩, congrArg some same.symm⟩
      rw [Keyed.Table.find?_set] at present
      split at present
      · cases present
        exact passing
      · exact keeps.passSound (holds.2 other next present)

theorem Law.run [DecidableEq Family] (both : keys.hasPrevious = true)
    {actions : List (SealedAction Writer)} :
    ∀ {world after : SealedWorld Store Family Row Position},
      target.WorldSound aead keys sound held world →
      Runs.run (sealedSystem target aead keys sound apply) world actions = some after →
      target.WorldSound aead keys sound held after ∧
        Runs.run (plainSystem applyPlain) (opened world.store)
          (actions.filterMap SealedAction.writer?) = some (opened after.store) := by
  induction actions with
  | nil =>
      intro world after holds ran
      cases ran
      exact ⟨holds, rfl⟩
  | cons action rest ih =>
      intro world after holds ran
      obtain ⟨middle, stepped, tail⟩ := Option.bind_eq_some_iff.mp ran
      obtain ⟨kept, first⟩ := law.step both holds stepped
      obtain ⟨final, others⟩ := ih kept tail
      refine ⟨final, ?_⟩
      have split : (action :: rest).filterMap SealedAction.writer? =
          action.writer?.toList ++ rest.filterMap SealedAction.writer? := by
        cases action <;> rfl
      rw [split, Runs.run_append, first]
      exact others

theorem Law.kept_by_run [DecidableEq Family] (both : keys.hasPrevious = true)
    {holds : Store → Prop} (allowed : Writer → Prop)
    (written : ∀ {store after writer}, sound store → apply store writer = some after →
      allowed writer → holds store → holds after)
    (decided : ∀ {before after}, opened after = opened before → holds before → holds after)
    {actions : List (SealedAction Writer)} :
    ∀ {world after : SealedWorld Store Family Row Position},
      target.WorldSound aead keys sound held world →
      Runs.run (sealedSystem target aead keys sound apply) world actions = some after →
      (∀ writer ∈ actions.filterMap SealedAction.writer?, allowed writer) →
      holds world.store → holds after.store := by
  induction actions with
  | nil =>
      intro world after _ ran _ start
      cases ran
      exact start
  | cons action rest ih =>
      intro world after valid ran writers start
      obtain ⟨middle, stepped, tail⟩ := Option.bind_eq_some_iff.mp ran
      obtain ⟨kept, plain⟩ := law.step both valid stepped
      have later : ∀ writer ∈ rest.filterMap SealedAction.writer?, allowed writer := by
        intro writer member
        obtain ⟨other, listed, same⟩ := List.mem_filterMap.mp member
        exact writers writer (List.mem_filterMap.mpr ⟨other, List.mem_cons_of_mem _ listed, same⟩)
      refine ih kept tail later ?_
      cases action with
      | write writer =>
          obtain ⟨store, moved, rfl⟩ := Option.map_eq_some_iff.mp stepped
          exact written valid.1 moved (writers writer (by simp [SealedAction.writer?])) start
      | beginPass worker => exact decided (Option.some.inj plain).symm start
      | advance worker nonce => exact decided (Option.some.inj plain).symm start

omit law in
theorem initial_sound [DecidableEq Family] {world : SealedWorld Store Family Row Position}
    (init : (sealedSystem target aead keys sound apply).initial world) :
    target.WorldSound aead keys sound held world := by
  refine ⟨init.1, fun worker pass found => ?_⟩
  rw [init.2] at found
  cases found

end Step

end ResealTarget

end Pass

end MarketplaceService
